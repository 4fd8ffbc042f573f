import Mathlib.Data.List.Sort
import WolandGuard.Data.Values

/-!
# Inbound updates

`infrastructure/telegram/updates.py`: the fields of a Bot API update that the
bot reads, with their bounds, and the reading of a whole `getUpdates` response.
Reading JSON into typed fields is the work of a library and a parameter here;
the bounds, the envelope and the order are the bot's own.
-/

set_option autoImplicit false

namespace WolandGuard.Telegram

/-- `TELEGRAM_UPDATE_BATCH_MAX`. -/
def telegramUpdateBatchMax : Nat := 100

/-- `TELEGRAM_MESSAGE_TEXT_MAX_CHARS`. -/
def telegramMessageTextMaxChars : Nat := 4096

structure TelegramSender where
  id : Int
  isBot : Bool
  languageCode : Option String
  deriving DecidableEq, Repr

structure TelegramChat where
  id : Int
  type : String
  deriving DecidableEq, Repr

structure TelegramMessage where
  messageId : Int
  sender : Option TelegramSender
  chat : TelegramChat
  text : Option String
  deriving DecidableEq, Repr

structure TelegramCallbackQuery where
  id : String
  sender : Option TelegramSender
  message : Option TelegramMessage
  data : Option String
  deriving DecidableEq, Repr

structure TelegramUpdate where
  updateId : Int
  message : Option TelegramMessage
  callbackQuery : Option TelegramCallbackQuery
  deriving DecidableEq, Repr

structure TelegramUpdateResponse where
  ok : Bool
  result : List TelegramUpdate
  deriving DecidableEq, Repr

/-- `PRIVATE_CHAT_TYPE`. -/
def TelegramMessage.isPrivate (message : TelegramMessage) : Bool := message.chat.type == "private"

/-! ## Bounds of the fields -/

def TelegramSender.validates (sender : TelegramSender) : Bool :=
  0 < sender.id && sender.id ≤ 2 ^ 53 - 1 && sender.languageCode.all (·.length ≤ 35)

def TelegramChat.validates (chat : TelegramChat) : Bool := chat.type.length ≤ 32

def TelegramMessage.validates (message : TelegramMessage) : Bool :=
  message.sender.all (·.validates) && message.chat.validates &&
    message.text.all (·.length ≤ telegramMessageTextMaxChars)

def TelegramCallbackQuery.validates (query : TelegramCallbackQuery) : Bool :=
  (1 ≤ query.id.length && query.id.length ≤ 128) && query.sender.all (·.validates) &&
    query.message.all (·.validates) && query.data.all (·.length ≤ 256)

def TelegramUpdate.validates (update : TelegramUpdate) : Bool :=
  0 ≤ update.updateId && update.message.all (·.validates) &&
    update.callbackQuery.all (·.validates)

def TelegramUpdateResponse.validates (response : TelegramUpdateResponse) : Bool :=
  response.result.length ≤ telegramUpdateBatchMax && response.result.all (·.validates)

/-! ## The response -/

inductive TelegramUpdateError where
  | rejectedSafely
  | notSuccessful
  deriving DecidableEq, Repr

def TelegramUpdateError.message : TelegramUpdateError → String
  | .rejectedSafely => "Telegram update response was rejected safely."
  | .notSuccessful => "Telegram update response was not successful."

/-- The sort key of updates. -/
def updateOrder (left right : TelegramUpdate) : Bool := left.updateId ≤ right.updateId

/-- `parse_update_response`, given the reading of typed fields from JSON. -/
def parseUpdateResponse (decode : List UInt8 → Option TelegramUpdateResponse)
    (body : List UInt8) : Except TelegramUpdateError (List TelegramUpdate) :=
  match decode body with
  | none => .error .rejectedSafely
  | some response =>
      if !response.validates then .error .rejectedSafely
      else if !response.ok then .error .notSuccessful
      else .ok (response.result.insertionSort (updateOrder · ·))

end WolandGuard.Telegram
