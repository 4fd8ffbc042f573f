import WolandGuard.Administration.Operations
import WolandGuard.Outbox.Verdicts
import WolandGuard.Telegram.Notifications
import WolandGuard.Telegram.Poller
import WolandGuard.Telegram.TokenFile

/-!
# Delivery by Telegram

`infrastructure/telegram/adapter.py` and the bounded read of `client.py`. An
adapter call ends with what the exchange with the Bot API shows, and a
`DeliveryResult` checks its own fields when it is built, which no result of the
adapter ever fails (`deliver_explained`).

Over whole runs of the queue a row is delivered only after the API has accepted
a post of its own notice to the chat of its own destination, and it fails for a
rejected delivery only after the API has rejected one
(`telegram_verdicts_explained`).
-/

set_option autoImplicit false

namespace WolandGuard.Telegram

open Foundations Outbox
open Administration (TelegramDestinationConfig)
open Incidents (UnicodeData)

/-! ## The exchange -/

/-- What happens to one request: no answer, or a status and the chunks of a
body, after which the transport may still fail. -/
inductive HttpExchange where
  | unanswered
  | answered (statusCode : Nat) (chunks : List (List Nat)) (broken : Bool)
  deriving DecidableEq, Repr

structure TelegramHttpResponse where
  statusCode : Nat
  body : List Nat
  deriving DecidableEq, Repr

inductive TelegramTransportError where
  | failed
  | responseTooLarge
  deriving DecidableEq, Repr

/-- The loop over `iter_bytes`. -/
def readChunks (broken : Bool) :
    List Nat → List (List Nat) → Except TelegramTransportError (List Nat)
  | buffer, [] => if broken then .error .failed else .ok buffer
  | buffer, chunk :: rest =>
      if telegramResponseLimitBytes < buffer.length + chunk.length then .error .responseTooLarge
      else readChunks broken (buffer ++ chunk) rest

/-- `_call`, once the request is on its way. -/
def callBotApi : HttpExchange → Except TelegramTransportError TelegramHttpResponse
  | .unanswered => .error .failed
  | .answered statusCode chunks broken => (readChunks broken [] chunks).map (⟨statusCode, ·⟩)

/-- **A body that is read is the whole body, within the limit.** -/
theorem readChunks_eq_ok {broken : Bool} {buffer body : List Nat} {chunks : List (List Nat)}
    (short : buffer.length ≤ telegramResponseLimitBytes) :
    readChunks broken buffer chunks = .ok body ↔
      broken = false ∧ body = buffer ++ chunks.flatten ∧
        body.length ≤ telegramResponseLimitBytes := by
  induction chunks generalizing buffer with
  | nil =>
      unfold readChunks
      rw [List.flatten_nil, List.append_nil]
      cases broken with
      | true => simp
      | false =>
          simp only [Bool.false_eq_true, if_false, Except.ok.injEq, true_and]
          exact ⟨fun same => ⟨same.symm, same ▸ short⟩, fun both => both.1.symm⟩
  | cons chunk rest ih =>
      unfold readChunks
      rw [List.flatten_cons]
      split
      next long =>
        refine ⟨fun impossible => (by cases impossible), ?_⟩
        rintro ⟨_, rfl, fits⟩
        simp only [List.length_append] at fits
        omega
      next fits =>
        rw [ih (by rw [List.length_append]; omega), List.append_assoc]

/-! ## Responses -/

/-- What `json.loads` returns. A float that is no finite number has no value. -/
inductive LoadedJson where
  | null
  | bool (value : Bool)
  | int (value : Int)
  | float (value : Option Rat)
  | str (value : String)
  | array (items : List LoadedJson)
  | object (members : List (String × LoadedJson))

/-- How `json.loads` ends: with a value, with one of the two errors that are
caught, or with another exception. -/
inductive JsonLoads where
  | value (json : LoadedJson)
  | malformed
  | raises

/-- `_parse_response`. -/
def parseResponse (loads : List Nat → JsonLoads) (body : List Nat) :
    Except Unit (Option (List (String × LoadedJson))) :=
  match loads body with
  | .malformed => .ok none
  | .raises => .error ()
  | .value (.object members) =>
      match members.lookup "ok" with
      | some (.bool _) => .ok (some members)
      | _ => .ok none
  | .value _ => .ok none

/-- The integers that `math.isfinite` cannot turn into a float. -/
def floatOverflows (value : Int) : Bool := 2 ^ 1024 - 2 ^ 970 ≤ value.natAbs

/-- `_retry_after`, before the value is rounded to a float. -/
def retryAfter : Option (List (String × LoadedJson)) → Except Unit (Option Rat)
  | none => .ok none
  | some parsed =>
      match parsed.lookup "parameters" with
      | some (.object parameters) =>
          match parameters.lookup "retry_after" with
          | some (.int value) =>
              if floatOverflows value then .error ()
              else .ok (if value < 0 then none else some value)
          | some (.float (some value)) => .ok (if value < 0 then none else some value)
          | _ => .ok none
      | _ => .ok none

/-! ## Results -/

/-- `_DELIVERY_RETRYABLE_CODES`. -/
def deliveryRetryableCodes : List OutboxErrorCode :=
  [.retryableDeliveryError, .telegramProtocolError, .telegramRuntimeCopyInvalid,
    .telegramRuntimeCopyUnavailable, .telegramStagingFileInvalid, .telegramStagingFileMissing]

/-- `_DELIVERY_PERMANENT_CODES`. -/
def deliveryPermanentCodes : List OutboxErrorCode :=
  [.permanentDeliveryError, .destinationUnconfigured, .payloadInvalid]

/-- The checks of `DeliveryResult.__post_init__`. -/
def postInit (retryAfterSeconds : Option Rat) (result : DeliveryResult) : Bool :=
  match result.disposition with
  | .delivered => result.errorCode.isNone && retryAfterSeconds.isNone
  | .retryable =>
      result.errorCode.any (· ∈ deliveryRetryableCodes) && retryAfterSeconds.all (0 ≤ ·)
  | .permanent => result.errorCode.any (· ∈ deliveryPermanentCodes) && retryAfterSeconds.isNone

/-- `DeliveryResult(...)`, which raises `ValueError` when a check fails. -/
def deliveryResult (disposition : DeliveryDisposition) (errorCode : Option OutboxErrorCode)
    (retryAfterSeconds : Option Rat) : AdapterOutcome :=
  if postInit retryAfterSeconds ⟨disposition, errorCode⟩ then .returned ⟨disposition, errorCode⟩
  else .raisedException

def retryable (code : OutboxErrorCode) : AdapterOutcome := deliveryResult .retryable (some code) none

def permanent (code : OutboxErrorCode) : AdapterOutcome := deliveryResult .permanent (some code) none

/-- The result of a request that comes too early. -/
def retryLater (hint : Except Unit (Option Rat)) : AdapterOutcome :=
  match hint with
  | .error _ => .raisedException
  | .ok retryAfterSeconds =>
      deliveryResult .retryable (some .retryableDeliveryError) retryAfterSeconds

/-- `_classify_response`. -/
def classifyResponse (loads : List Nat → JsonLoads) (statusCode : Nat) (body : List Nat) :
    AdapterOutcome :=
  if 300 ≤ statusCode ∧ statusCode < 400 then permanent .permanentDeliveryError
  else if statusCode = 408 then retryable .retryableDeliveryError
  else if statusCode = 429 then retryLater (parseResponse loads body >>= retryAfter)
  else if 500 ≤ statusCode ∧ statusCode < 600 then retryable .retryableDeliveryError
  else if 400 ≤ statusCode ∧ statusCode < 500 then permanent .permanentDeliveryError
  else if ¬ (200 ≤ statusCode ∧ statusCode < 300) then retryable .telegramProtocolError
  else
    match parseResponse loads body with
    | .error _ => .raisedException
    | .ok none => retryable .telegramProtocolError
    | .ok (some parsed) =>
        match parsed.lookup "ok" with
        | some (.bool true) => deliveryResult .delivered none none
        | _ =>
            match parsed.lookup "error_code" with
            | some (.int apiCode) =>
                if apiCode = 408 then retryable .retryableDeliveryError
                else if apiCode = 429 then retryLater (retryAfter (some parsed))
                else if 500 ≤ apiCode ∧ apiCode < 600 then retryable .retryableDeliveryError
                else if 400 ≤ apiCode ∧ apiCode < 500 then permanent .permanentDeliveryError
                else retryable .telegramProtocolError
            | _ => retryable .telegramProtocolError

/-! ## Delivery -/

/-- What the adapter is built with. `timeoutsFit` tells whether the HTTP
timeouts are valid for the budget of a call. -/
structure AdapterSettings where
  unicode : UnicodeData
  language : Language
  dashboardOrigin : DashboardOrigin
  timeoutsFit : Bool
  loads : List Nat → JsonLoads

/-- `TelegramTokenFileError.error_code`. -/
def TokenErrorCode.outboxCode : TokenErrorCode → OutboxErrorCode
  | .stagingFileMissing => .telegramStagingFileMissing
  | .stagingFileInvalid => .telegramStagingFileInvalid
  | .runtimeCopyUnavailable => .telegramRuntimeCopyUnavailable
  | .runtimeCopyInvalid => .telegramRuntimeCopyInvalid

/-- The arguments of `send_message`. -/
structure SendMessageRequest where
  token : String
  chatId : Int
  text : String
  replyMarkup : List (List NoticeButton)

/-- `deliver`, up to the call: the request, or how the delivery ends without
one. `tokens` is what `token_for_delivery` gives for the name of a token file. -/
def sendMessageRequest (settings : AdapterSettings) (tokens : String → Except TokenErrorCode String)
    (claim : ClaimedOutboxMessage) : Except AdapterOutcome SendMessageRequest :=
  match claim.providerConfiguration with
  | none => .error (permanent .destinationUnconfigured)
  | some configuration =>
      match tokens configuration.tokenFileName with
      | .error code => .error (retryable code.outboxCode)
      | .ok token =>
          let rendered : Except NoticeError (String × List (List NoticeButton)) := do
            let text ← formatIncidentCreatedMessage settings.unicode settings.language claim.payload
            let keyboard ← buildIncidentActionKeyboard settings.language claim.payload.incidentId
              settings.dashboardOrigin
            .ok (text, keyboard)
          match rendered with
          | .error (.callback _) => .error .raisedException
          | .error _ => .error (permanent .payloadInvalid)
          | .ok (text, keyboard) => .ok ⟨token, configuration.chatId, text, keyboard⟩

/-- `deliver`. -/
def deliver (settings : AdapterSettings) (tokens : String → Except TokenErrorCode String)
    (exchange : HttpExchange) (claim : ClaimedOutboxMessage) : AdapterOutcome :=
  match sendMessageRequest settings tokens claim with
  | .error outcome => outcome
  | .ok _ =>
      if !settings.timeoutsFit then .raisedException
      else
        match callBotApi exchange with
        | .error .responseTooLarge => retryable .telegramProtocolError
        | .error .failed => retryable .retryableDeliveryError
        | .ok response => classifyResponse settings.loads response.statusCode response.body

/-! ## How a delivery ends -/

/-- The response accepts the message. -/
def Accepts (loads : List Nat → JsonLoads) (response : TelegramHttpResponse) : Prop :=
  (200 ≤ response.statusCode ∧ response.statusCode < 300) ∧
    ∃ members, loads response.body = .value (.object members) ∧
      members.lookup "ok" = some (.bool true)

/-- The response rejects the message for good: by its status, or by the error
code of a body that denies success. -/
def Rejects (loads : List Nat → JsonLoads) (response : TelegramHttpResponse) : Prop :=
  (300 ≤ response.statusCode ∧ response.statusCode < 500 ∧ response.statusCode ≠ 408 ∧
      response.statusCode ≠ 429) ∨
    (200 ≤ response.statusCode ∧ response.statusCode < 300) ∧
      ∃ members apiCode, loads response.body = .value (.object members) ∧
        members.lookup "ok" = some (.bool false) ∧
        members.lookup "error_code" = some (.int apiCode) ∧
        400 ≤ apiCode ∧ apiCode < 500 ∧ apiCode ≠ 408 ∧ apiCode ≠ 429

theorem retryable_eq {code : OutboxErrorCode} (known : code ∈ deliveryRetryableCodes) :
    retryable code = .returned ⟨.retryable, some code⟩ := by
  simp [retryable, deliveryResult, postInit, known]

theorem permanent_eq {code : OutboxErrorCode} (known : code ∈ deliveryPermanentCodes) :
    permanent code = .returned ⟨.permanent, some code⟩ := by
  simp [permanent, deliveryResult, postInit, known]

/-- A hint is never negative. -/
theorem retryAfter_nonneg {parsed : Option (List (String × LoadedJson))} {value : Rat}
    (hint : retryAfter parsed = .ok (some value)) : 0 ≤ value := by
  unfold retryAfter at hint
  split at hint
  · cases hint
  split at hint
  · split at hint
    · split at hint
      · cases hint
      · split at hint
        · cases hint
        next nonneg =>
          obtain rfl := Option.some.inj (Except.ok.inj hint)
          exact_mod_cast Int.not_lt.mp nonneg
    · split at hint
      · cases hint
      next nonneg =>
        obtain rfl := Option.some.inj (Except.ok.inj hint)
        exact not_lt.mp nonneg
    · cases hint
  · cases hint

/-- A request that comes too early is retried, unless its hint raises. -/
theorem retryLater_cases {hint : Except Unit (Option Rat)}
    (nonneg : ∀ value, hint = .ok (some value) → 0 ≤ value) :
    retryLater hint = .raisedException ∨
      retryLater hint = .returned ⟨.retryable, some .retryableDeliveryError⟩ := by
  cases hint with
  | error _ => exact .inl rfl
  | ok retryAfterSeconds =>
      refine .inr ?_
      cases retryAfterSeconds with
      | none => rfl
      | some value =>
          have valid := nonneg value rfl
          simp [retryLater, deliveryResult, postInit, deliveryRetryableCodes, valid]

/-- What an outcome of an adapter call rests on. -/
inductive Explained (settings : AdapterSettings) (tokens : String → Except TokenErrorCode String)
    (exchange : HttpExchange) (claim : ClaimedOutboxMessage) : AdapterOutcome → Prop where
  | accepted {request : SendMessageRequest} {response : TelegramHttpResponse}
      (sent : sendMessageRequest settings tokens claim = .ok request)
      (answer : callBotApi exchange = .ok response) (accepts : Accepts settings.loads response) :
      Explained settings tokens exchange claim (.returned ⟨.delivered, none⟩)
  | rejected {request : SendMessageRequest} {response : TelegramHttpResponse}
      (sent : sendMessageRequest settings tokens claim = .ok request)
      (answer : callBotApi exchange = .ok response) (rejects : Rejects settings.loads response) :
      Explained settings tokens exchange claim (.returned ⟨.permanent, some .permanentDeliveryError⟩)
  | unconfigured (missing : claim.providerConfiguration = none) :
      Explained settings tokens exchange claim (.returned ⟨.permanent, some .destinationUnconfigured⟩)
  | refused (unsent : ∀ request, sendMessageRequest settings tokens claim ≠ .ok request) :
      Explained settings tokens exchange claim (.returned ⟨.permanent, some .payloadInvalid⟩)
  | retried {code : OutboxErrorCode} (known : code ∈ deliveryRetryableCodes) :
      Explained settings tokens exchange claim (.returned ⟨.retryable, some code⟩)
  | raised : Explained settings tokens exchange claim .raisedException

section Explanations

variable {settings : AdapterSettings} {tokens : String → Except TokenErrorCode String}
variable {exchange : HttpExchange} {claim : ClaimedOutboxMessage}

theorem Explained.of_retryable {code : OutboxErrorCode} (known : code ∈ deliveryRetryableCodes) :
    Explained settings tokens exchange claim (retryable code) := by
  rw [retryable_eq known]
  exact .retried known

theorem Explained.of_retryLater {hint : Except Unit (Option Rat)}
    (nonneg : ∀ value, hint = .ok (some value) → 0 ≤ value) :
    Explained settings tokens exchange claim (retryLater hint) := by
  rcases retryLater_cases nonneg with raised | retried
  · rw [raised]
    exact .raised
  · rw [retried]
    exact .retried (by decide)

/-- The members of a parsed response. -/
theorem parseResponse_eq_some {loads : List Nat → JsonLoads} {body : List Nat}
    {members : List (String × LoadedJson)}
    (parsed : parseResponse loads body = .ok (some members)) :
    loads body = .value (.object members) ∧ ∃ ok, members.lookup "ok" = some (.bool ok) := by
  unfold parseResponse at parsed
  split at parsed
  · cases parsed
  · cases parsed
  next found loaded =>
    split at parsed
    next ok present =>
      obtain rfl := Option.some.inj (Except.ok.inj parsed)
      exact ⟨loaded, ok, present⟩
    · cases parsed
  · cases parsed

/-- **A classified response explains its outcome.** -/
theorem Explained.of_response {request : SendMessageRequest} {response : TelegramHttpResponse}
    (sent : sendMessageRequest settings tokens claim = .ok request)
    (answer : callBotApi exchange = .ok response) :
    Explained settings tokens exchange claim
      (classifyResponse settings.loads response.statusCode response.body) := by
  have rejected (rejects : Rejects settings.loads response) :
      Explained settings tokens exchange claim (permanent .permanentDeliveryError) := by
    rw [permanent_eq (by decide)]
    exact .rejected sent answer rejects
  have retried : Explained settings tokens exchange claim (retryable .retryableDeliveryError) :=
    .of_retryable (by decide)
  have protocol : Explained settings tokens exchange claim (retryable .telegramProtocolError) :=
    .of_retryable (by decide)
  unfold classifyResponse
  split
  next moved => exact rejected (.inl (by omega))
  split
  · exact retried
  split
  · refine .of_retryLater fun value hint => ?_
    cases parsed : parseResponse settings.loads response.body with
    | error _ =>
        rw [parsed] at hint
        cases hint
    | ok members =>
        rw [parsed] at hint
        exact retryAfter_nonneg hint
  split
  · exact retried
  split
  next denied => exact rejected (.inl (by omega))
  split
  · exact protocol
  next successful =>
    have range := not_not.mp successful
    split
    · exact .raised
    · exact protocol
    next members parsed =>
      obtain ⟨loaded, ok, present⟩ := parseResponse_eq_some parsed
      split
      next yes =>
        exact .accepted sent answer ⟨range, members, loaded, yes⟩
      next no =>
        have denied : members.lookup "ok" = some (.bool false) := by
          cases ok with
          | true => exact absurd present no
          | false => exact present
        split
        next apiCode coded =>
          split
          · exact retried
          split
          · exact .of_retryLater fun value hint => retryAfter_nonneg hint
          split
          · exact retried
          split
          next rejecting =>
            exact rejected (.inr ⟨range, members, apiCode, loaded, denied, coded, rejecting.1,
              rejecting.2, by assumption, by assumption⟩)
          · exact protocol
        · exact protocol

/-- **Every outcome of the adapter is explained**, and none fails the checks of
a delivery result. -/
theorem deliver_explained (settings : AdapterSettings) (tokens : String → Except TokenErrorCode String)
    (exchange : HttpExchange) (claim : ClaimedOutboxMessage) :
    Explained settings tokens exchange claim (deliver settings tokens exchange claim) := by
  unfold deliver
  split
  next outcome unsent =>
    have original := unsent
    unfold sendMessageRequest at unsent
    split at unsent
    next missing =>
      obtain rfl := Except.error.inj unsent
      rw [permanent_eq (by decide)]
      exact .unconfigured missing
    next configuration present =>
      split at unsent
      next code _ =>
        obtain rfl := Except.error.inj unsent
        refine .of_retryable ?_
        cases code <;> decide
      next value read =>
        dsimp only at unsent
        split at unsent
        · obtain rfl := Except.error.inj unsent
          exact .raised
        next error _ rendered =>
          obtain rfl := Except.error.inj unsent
          rw [permanent_eq (by decide)]
          refine .refused fun request sent => ?_
          rw [original] at sent
          cases sent
        · cases unsent
  next request sent =>
    split
    · exact .raised
    split
    · exact .of_retryable (by decide)
    · exact .of_retryable (by decide)
    next response answer => exact .of_response sent answer

end Explanations

/-! ## Whole runs -/

/-- `load_telegram_delivery_configuration`. -/
def loadTelegramDeliveryConfiguration (configs : List TelegramDestinationConfig)
    (destinationId : Uuid) : Option ProviderConfiguration :=
  (configs.find? (·.destinationId = destinationId)).map fun config =>
    ⟨config.destinationId, config.chatId, config.tokenFileName⟩

/-- The `configuration_loaders` of the worker, on the rows that they read. -/
def telegramLoaders (configs : List TelegramDestinationConfig) (adapterKind : String) :
    Option (Uuid → Option ProviderConfiguration) :=
  if adapterKind = "telegram" then some (loadTelegramDeliveryConfiguration configs) else none

/-- An adapter call is a delivery by Telegram, a claim loads its configuration from
the rows of `telegram_destination_configs`, and a completion comes from a worker. -/
def DeliversByTelegram (settings : AdapterSettings) (taken : Taken QueueState QueueLabel) : Prop :=
  match taken.label with
  | .callAdapter worker outcome => ∀ claim, taken.before.workers worker = .holding claim →
      ∃ tokens exchange, outcome = deliver settings tokens exchange claim
  | .claim _ context _ _ _ _ => ∃ configs, context.configurationLoaders = telegramLoaders configs
  | label => label.ByWorker

/-- A claim of the path has read the row of a destination's configuration. -/
def Configured (path : List (Taken QueueState QueueLabel)) (destinationId : Uuid)
    (config : TelegramDestinationConfig) : Prop :=
  config.destinationId = destinationId ∧
    ∃ taken ∈ path, ∃ worker context locked now lease token configs,
      taken.label = .claim worker context locked now lease token ∧
        context.configurationLoaders = telegramLoaders configs ∧ config ∈ configs

/-- A worker has posted the notice of a row to the chat of the row's destination,
with the token of its file, and got a response. -/
def Posted (settings : AdapterSettings) (path : List (Taken QueueState QueueLabel))
    (row : OutboxMessage) (response : TelegramHttpResponse) : Prop :=
  ∃ taken ∈ path, ∃ worker claim tokens exchange request config,
    taken.label = .callAdapter worker (deliver settings tokens exchange claim) ∧
      taken.before.workers worker = .holding claim ∧ claim.outboxId = row.id ∧
      sendMessageRequest settings tokens claim = .ok request ∧
      callBotApi exchange = .ok response ∧
      Configured path row.destinationId config ∧ request.chatId = config.chatId ∧
      tokens config.tokenFileName = .ok request.token ∧
      formatIncidentCreatedMessage settings.unicode settings.language row.payload =
        .ok request.text ∧
      buildIncidentActionKeyboard settings.language row.payload.incidentId
        settings.dashboardOrigin = .ok request.replyMarkup

/-- What a request is made of. -/
theorem sendMessageRequest_eq_ok {settings : AdapterSettings}
    {tokens : String → Except TokenErrorCode String} {claim : ClaimedOutboxMessage}
    {request : SendMessageRequest} (sent : sendMessageRequest settings tokens claim = .ok request) :
    (∃ configuration, claim.providerConfiguration = some configuration ∧
        request.chatId = configuration.chatId ∧
        tokens configuration.tokenFileName = .ok request.token) ∧
      formatIncidentCreatedMessage settings.unicode settings.language claim.payload =
        .ok request.text ∧
      buildIncidentActionKeyboard settings.language claim.payload.incidentId
        settings.dashboardOrigin = .ok request.replyMarkup := by
  unfold sendMessageRequest at sent
  split at sent
  · cases sent
  next configuration configured =>
    split at sent
    · cases sent
    next token read =>
      cases formatted : formatIncidentCreatedMessage settings.unicode settings.language
          claim.payload with
      | error error =>
          rw [formatted] at sent
          cases error <;> cases sent
      | ok text =>
          cases built : buildIncidentActionKeyboard settings.language claim.payload.incidentId
              settings.dashboardOrigin with
          | error error =>
              rw [formatted, built] at sent
              cases error <;> cases sent
          | ok keyboard =>
              rw [formatted, built] at sent
              obtain rfl := Except.ok.inj sent
              exact ⟨⟨configuration, configured, rfl, read⟩, rfl, rfl⟩

theorem loadTelegramDeliveryConfiguration_eq_some {configs : List TelegramDestinationConfig}
    {destinationId : Uuid} {configuration : ProviderConfiguration}
    (loaded : loadTelegramDeliveryConfiguration configs destinationId = some configuration) :
    ∃ config ∈ configs, config.destinationId = destinationId ∧
      configuration = ⟨config.destinationId, config.chatId, config.tokenFileName⟩ := by
  obtain ⟨config, found, same⟩ := Option.map_eq_some_iff.mp loaded
  have same_id := List.find?_some found
  exact ⟨config, List.mem_of_find?_eq_some found, by simpa using same_id, same.symm⟩

section Runs

variable {settings : AdapterSettings} {registry : String → Bool} {finish : QueueState}
variable {path : List (Taken QueueState QueueLabel)}

theorem DeliversByTelegram.byWorker {taken : Taken QueueState QueueLabel}
    (telegram : DeliversByTelegram settings taken) : taken.label.ByWorker := by
  unfold DeliversByTelegram at telegram
  split at telegram
  next called =>
    rw [called]
    trivial
  next claimed =>
    rw [claimed]
    trivial
  · exact telegram

/-- The configuration of a message in hand is a row that its claim has read. -/
theorem configured_of_handed (telegram : ∀ taken ∈ path, DeliversByTelegram settings taken)
    {claim : ClaimedOutboxMessage} (handed : Handed path claim)
    {configuration : ProviderConfiguration}
    (configured : claim.providerConfiguration = some configuration) :
    ∃ config, Configured path claim.destinationId config ∧
      configuration.chatId = config.chatId ∧
      configuration.tokenFileName = config.tokenFileName := by
  obtain ⟨taken, member, worker, context, locked, now, lease, token, label, by_context⟩ := handed
  have claims := telegram taken member
  rw [DeliversByTelegram, label] at claims
  obtain ⟨configs, loaders⟩ := claims
  have loaded := by_context.configuration
  rw [configured, loaders, telegramLoaders] at loaded
  split at loaded
  · rw [Option.bind_some] at loaded
    obtain ⟨config, config_member, same_id, rfl⟩ :=
      loadTelegramDeliveryConfiguration_eq_some loaded.symm
    exact ⟨config, ⟨same_id, taken, member, worker, context, locked, now, lease, token, configs,
      label, loaders, config_member⟩, rfl, rfl⟩
  · cases loaded

/-- A returned verdict rests on a post of the row's notice. -/
theorem posted_of_returned (telegram : ∀ taken ∈ path, DeliversByTelegram settings taken)
    {row : OutboxMessage} {verdict : Bool} (returned : Returned path row verdict) :
    ∃ response, Posted settings path row response ∧
      if verdict then Accepts settings.loads response else Rejects settings.loads response := by
  obtain ⟨claim, outcome, ⟨taken, member, worker, label, holding⟩, given, subject, handed⟩ :=
    returned
  have delivers := telegram taken member
  rw [DeliversByTelegram, label] at delivers
  obtain ⟨tokens, exchange, rfl⟩ := delivers claim holding
  simp only [OutboxMessage.subject, ClaimedOutboxMessage.subject, Prod.mk.injEq] at subject
  obtain ⟨same_id, same_destination, same_payload⟩ := subject
  have posted {request : SendMessageRequest} {response : TelegramHttpResponse}
      (sent : sendMessageRequest settings tokens claim = .ok request)
      (answer : callBotApi exchange = .ok response) : Posted settings path row response := by
    obtain ⟨⟨configuration, configured, chat, token⟩, text, keyboard⟩ :=
      sendMessageRequest_eq_ok sent
    obtain ⟨config, read, same_chat, same_file⟩ :=
      configured_of_handed telegram handed configured
    rw [← same_payload] at text keyboard
    rw [← same_destination] at read
    rw [same_file] at token
    exact ⟨taken, member, worker, claim, tokens, exchange, request, config, label, holding,
      same_id.symm, sent, answer, read, chat.trans same_chat, token, text, keyboard⟩
  have explained := deliver_explained settings tokens exchange claim
  generalize deliver settings tokens exchange claim = outcome at given explained
  cases explained with
  | accepted sent answer accepts =>
      obtain rfl := Option.some.inj given
      exact ⟨_, posted sent answer, accepts⟩
  | rejected sent answer rejects =>
      obtain rfl := Option.some.inj given
      exact ⟨_, posted sent answer, rejects⟩
  | unconfigured => cases given
  | refused => cases given
  | retried => cases given
  | raised => cases given

/-- **Telegram's verdicts are Telegram's.** In every run of the queue whose
adapter calls are deliveries by Telegram and whose completions come from
workers, over any number of workers, crashes, recoveries and requeues: a
delivered row had its own notice posted to the chat of its own destination and
accepted with a success status and `"ok": true`, and a row that failed for a
rejected delivery had its own notice posted there and rejected. -/
theorem telegram_verdicts_explained (run : Run (QueueStep registry) .initial path finish)
    (telegram : ∀ taken ∈ path, DeliversByTelegram settings taken) :
    ∀ row ∈ finish.rows,
      (row.status = .delivered →
        ∃ response, Posted settings path row response ∧ Accepts settings.loads response) ∧
      (row.status = .failed → row.lastErrorCode = some .permanentDeliveryError →
        ∃ response, Posted settings path row response ∧ Rejects settings.loads response) := by
  have history := verdicts_from_calls run fun taken member => (telegram taken member).byWorker
  intro row member
  constructor
  · intro delivered
    have verdict : row.verdict = some true := by
      rw [OutboxMessage.verdict, if_pos delivered]
    exact posted_of_returned telegram (history.settled row member true verdict)
  · intro failed code
    have verdict : row.verdict = some false := by
      rw [OutboxMessage.verdict, if_neg (by rw [failed]; decide), if_pos ⟨failed, code⟩]
    exact posted_of_returned telegram (history.settled row member false verdict)

end Runs

/-! ## One delivery -/

/-- The body of a success. -/
def successBody : List Nat := "\x7b\"ok\":true\x7d".toList.map Char.toNat

/-- An adapter whose `json.loads` knows the body of a success. -/
def englishAdapter : AdapterSettings where
  unicode := .ascii
  language := .en
  dashboardOrigin := ⟨"https://guard.test", "https", "guard.test", "", ""⟩
  timeoutsFit := true
  loads body := if body = successBody then .value (.object [("ok", .bool true)]) else .malformed

/-- The chats of two destinations, which have one bot each. -/
def chatConfigs : List TelegramDestinationConfig :=
  [⟨4, -200, "other-bot", 0, 0⟩, ⟨3, -100, "bot", 0, 0⟩]

def chatContext : ClaimContext where
  destinations := [⟨4, "telegram", true, .low⟩, ⟨3, "telegram", true, .low⟩]
  configurationLoaders := telegramLoaders chatConfigs

/-- The tokens of the two bots. -/
def tokenFiles (name : String) : Except TokenErrorCode String :=
  if name = "bot" then .ok "token" else .ok "other-token"

def bruteForceRow : OutboxMessage := .fresh 1 2 3 bruteForcePayload 5 0

def queuedNotice : QueueState := { QueueState.initial with rows := [bruteForceRow] }

def claimedNotice : QueueState := queuedNotice.afterClaim 0 chatContext (fun _ => false) 0 10 9

/-- The message in hand. -/
def noticeClaim : ClaimedOutboxMessage where
  outboxId := 1
  incidentId := 2
  destinationId := 3
  adapterKind := "telegram"
  payload := bruteForcePayload
  attemptCount := 1
  claimToken := 9
  providerConfiguration := some ⟨3, -100, "bot"⟩

/-- The API accepts the post, in two chunks. -/
def acceptingExchange : HttpExchange := .answered 200 [successBody.take 4, successBody.drop 4] false

def acceptedOutcome : AdapterOutcome :=
  deliver englishAdapter tokenFiles acceptingExchange noticeClaim

def postedNotice : QueueState := claimedNotice.afterSend 0 noticeClaim acceptedOutcome

def deliveredNotice : QueueState :=
  (postedNotice.idled 0).afterCompletion 1 9 5 (acceptedOutcome.completion 0)

def deliveredPath : List (Taken QueueState QueueLabel) :=
  [⟨.initial, .enqueue [bruteForceRow], queuedNotice⟩,
    ⟨queuedNotice, .claim 0 chatContext (fun _ => false) 0 10 9, claimedNotice⟩,
    ⟨claimedNotice, .callAdapter 0 acceptedOutcome, postedNotice⟩,
    ⟨postedNotice, .complete 0 ⟨1, 9, 5, acceptedOutcome.completion 0⟩, deliveredNotice⟩]

/-- The notice of a brute force is delivered by one accepted post. -/
theorem telegram_verdicts_explained_delivered :
    ∃ row ∈ deliveredNotice.rows, row.status = .delivered ∧
      ∃ response, Posted englishAdapter deliveredPath row response ∧
        Accepts englishAdapter.loads response := by
  have holding : claimedNotice.workers 0 = .holding noticeClaim := rfl
  have answered : postedNotice.workers 0 = .answered noticeClaim acceptedOutcome := rfl
  have run : Run (QueueStep fun _ => true) .initial deliveredPath deliveredNotice := by
    refine .cons (.enqueue ?_ (by decide)) (.cons (.claim rfl (by decide)) (.cons
      (.callAdapter holding rfl) (.cons (QueueStep.complete 0 answered) (.nil _))))
    intro row member
    obtain rfl := List.mem_singleton.mp member
    exact ⟨_, 0, by decide, rfl⟩
  have telegram : ∀ taken ∈ deliveredPath, DeliversByTelegram englishAdapter taken := by
    intro taken member
    simp only [deliveredPath, List.mem_cons, List.not_mem_nil, or_false] at member
    rcases member with rfl | rfl | rfl | rfl
    · trivial
    · exact ⟨chatConfigs, rfl⟩
    · intro claim held
      obtain rfl := WorkerPhase.holding.inj (holding.symm.trans held)
      exact ⟨_, _, rfl⟩
    · trivial
  have delivered : deliveredNotice.rows.map (·.status) = [.delivered] := by decide +kernel
  obtain ⟨row, rows⟩ := List.map_eq_singleton_iff.mp delivered
  have member : row ∈ deliveredNotice.rows := by
    rw [rows.1]
    exact List.mem_singleton_self row
  exact ⟨row, member, rows.2, (telegram_verdicts_explained run telegram row member).1 rows.2⟩

end WolandGuard.Telegram
