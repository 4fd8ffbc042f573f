import Mathlib.Data.List.Basic
import WolandGuard.Data.Values

/-!
# Languages and strings of the bot

`language.py` and `telegram_bot/i18n.py`: the closed set of languages and the
catalogue of the strings that replies are made of.
-/

set_option autoImplicit false

namespace WolandGuard.Telegram

inductive Language where
  | ru
  | en
  deriving DecidableEq, Repr

/-- `DEFAULT_LANGUAGE`. -/
def defaultLanguage : Language := .ru

/-- `SUPPORTED_LANGUAGES`. -/
def supportedLanguage (text : String) : Option Language :=
  if text = "ru" then some .ru else if text = "en" then some .en else none

/-- `normalize_language`. -/
def normalizeLanguage (value : String) : Language := (supportedLanguage value).getD defaultLanguage

/-- `str.casefold`, on the letters that a supported language is spelled with. -/
def casefold (text : String) : String := String.ofList (text.toList.map Char.toLower)

/-- `language_from_client_tag`. -/
def languageFromClientTag (value : Option String) : Option Language :=
  value.bind fun tag =>
    supportedLanguage (casefold (String.ofList (tag.toList.takeWhile (· ≠ '-'))))

/-- The keys of `_STRINGS`, without those of outgoing notifications. -/
inductive StringKey where
  | statusNew
  | statusInvestigating
  | statusResolved
  | statusFalsePositive
  | help
  | unlinked
  | forbidden
  | unknownCommand
  | languageUsage
  | languageChanged
  | callbackUnlinked
  | callbackForbidden
  | callbackInvalid
  | callbackRateLimited
  | reasonInvalid
  | reasonExpired
  | reasonPrompt
  | incidentNotFound
  | incidentStaleVersion
  | incidentTransitionNotAllowed
  | incidentAlreadyApplied
  | incidentStatusChanged
  | incidentInProgress
  | incidentTransitionFailed
  | ipBlockDisabled
  | ipBlockNoSourceAddress
  | ipBlockProposed
  | ipBlockReused
  | ipBlockPlanNotFound
  | ipBlockAlreadyDecided
  | ipBlockExpired
  | ipBlockSameOperator
  | ipBlockNowBlocked
  | ipBlockApproved
  | ipBlockRejected
  | ipBlockRejectNotAnAddress
  | ipBlockRejectNeverBlock
  | ipBlockRejectAllowlisted
  | proposalHeading
  | proposalAddress
  | proposalIncident
  | proposalCommand
  | proposalExpires
  | proposalApprovalNote
  | overviewHeading
  | overviewServers
  | overviewServersDetail
  | overviewOpenIncidents
  | overviewCritical
  | overviewQueue
  | overviewPending
  | overviewProcessing
  | overviewDelivered
  | overviewFailed
  | serversEmpty
  | serversHeading
  | serversActive
  | serversInactive
  | serversHost
  | serversOpenIncidents
  | serversLastEvent
  | incidentsHeading
  | incidentsEmpty
  | incidentsEmptyCritical
  | incidentsServer
  | incidentsStatus
  | incidentsEvents
  | incidentsLast
  | incidentsId
  | listTruncated
  | buttonApprove
  | buttonReject
  deriving DecidableEq, Repr

/-- The strings in Russian. -/
def StringKey.ru : StringKey → String
  | .statusNew => "новый"
  | .statusInvestigating => "в работе"
  | .statusResolved => "закрыт"
  | .statusFalsePositive => "ложное срабатывание"
  | .help =>
      "Woland Guard\n\n/status - сводка по серверам и инцидентам\n/servers - список контролируемых серверов\n/incidents - последние инциденты\n/critical - активные критические инциденты\n/lang ru|en - язык ответов бота\n/help - эта справка\n\nБот доступен только связанным операторам и отвечает только в личном чате."
  | .unlinked =>
      "Этот аккаунт не связан с оператором Woland Guard.\nВаш Telegram ID: \x7btelegram_user_id\x7d\nПередайте его администратору для связывания через локальный CLI."
  | .forbidden => "Недостаточно прав для этой команды."
  | .unknownCommand => "Неизвестная команда. Отправьте /help."
  | .languageUsage => "Использование: /lang ru или /lang en"
  | .languageChanged => "Язык ответов бота: русский."
  | .callbackUnlinked => "Аккаунт не связан с оператором. Обратитесь к администратору."
  | .callbackForbidden => "Недостаточно прав для этого действия."
  | .callbackInvalid => "Некорректный запрос."
  | .callbackRateLimited => "Слишком много запросов. Повторите позже."
  | .reasonInvalid =>
      "Причина некорректна (1–1000 символов, без управляющих символов). Действие отменено — нажмите кнопку ещё раз."
  | .reasonExpired => "Время ожидания причины истекло. Нажмите кнопку в уведомлении ещё раз."
  | .reasonPrompt =>
      "Действие «\x7blabel\x7d» требует причины.\nОтправьте её одним сообщением (1–1000 символов).\nЛюбая команда, например /help, отменяет действие."
  | .incidentNotFound => "Инцидент не найден."
  | .incidentStaleVersion =>
      "Инцидент уже был изменён. Откройте панель, чтобы увидеть текущий статус."
  | .incidentTransitionNotAllowed => "Переход недоступен из текущего статуса инцидента."
  | .incidentAlreadyApplied => "Уже выполнено ранее: статус «\x7blabel\x7d»."
  | .incidentStatusChanged => "Статус изменён: «\x7blabel\x7d»."
  | .incidentInProgress => "Действие уже выполняется. Повторите позже."
  | .incidentTransitionFailed => "Не удалось изменить статус. Повторите позже."
  | .ipBlockDisabled => "Функция блокировки IP отключена на этом сервере."
  | .ipBlockNoSourceAddress => "У инцидента нет адреса источника для блокировки."
  | .ipBlockProposed => "План подготовлен, детали отправлены отдельным сообщением."
  | .ipBlockReused => "План уже подготовлен ранее, детали отправлены отдельным сообщением."
  | .ipBlockPlanNotFound => "План не найден."
  | .ipBlockAlreadyDecided => "План уже был обработан ранее."
  | .ipBlockExpired => "Срок действия плана истёк. Подготовьте блокировку заново."
  | .ipBlockSameOperator => "Подтвердить план может только другой оператор."
  | .ipBlockNowBlocked =>
      "Адрес больше нельзя блокировать (allowlist или защищённый диапазон изменились). План автоматически отклонён."
  | .ipBlockApproved =>
      "План подтверждён. Блокировка НЕ выполнена: control plane не исполняет команды, это только подтверждение плана."
  | .ipBlockRejected => "План отклонён."
  | .ipBlockRejectNotAnAddress => "Адрес источника инцидента некорректен."
  | .ipBlockRejectNeverBlock => "Этот адрес защищён от блокировки."
  | .ipBlockRejectAllowlisted => "Этот адрес в allowlist и не может быть заблокирован."
  | .proposalHeading => "Предложена блокировка IP (ничего не выполнено)"
  | .proposalAddress => "Адрес:"
  | .proposalIncident => "Инцидент:"
  | .proposalCommand => "Команда:"
  | .proposalExpires => "Истекает:"
  | .proposalApprovalNote =>
      "Подтвердить может оператор с ролью admin. Отклонить может любой аналитик."
  | .overviewHeading => "Состояние Woland Guard"
  | .overviewServers => "Серверы:"
  | .overviewServersDetail => "активных \x7bactive\x7d, неактивных \x7binactive\x7d"
  | .overviewOpenIncidents => "Открытых инцидентов:"
  | .overviewCritical => "Из них критических:"
  | .overviewQueue => "Очередь уведомлений:"
  | .overviewPending => "ожидают:"
  | .overviewProcessing => "в работе:"
  | .overviewDelivered => "доставлены:"
  | .overviewFailed => "неуспешные:"
  | .serversEmpty => "Серверы не зарегистрированы."
  | .serversHeading => "Серверы:"
  | .serversActive => "активен"
  | .serversInactive => "неактивен"
  | .serversHost => "хост:"
  | .serversOpenIncidents => "открытых инцидентов:"
  | .serversLastEvent => "последнее событие:"
  | .incidentsHeading => "Инциденты:"
  | .incidentsEmpty => "Инцидентов пока нет."
  | .incidentsEmptyCritical => "Активных критических инцидентов нет."
  | .incidentsServer => "сервер:"
  | .incidentsStatus => "статус:"
  | .incidentsEvents => "событий:"
  | .incidentsLast => "последнее:"
  | .incidentsId => "id:"
  | .listTruncated => "Показаны не все записи. Полный список — в Dashboard."
  | .buttonApprove => "Подтвердить"
  | .buttonReject => "Отклонить"

/-- The strings in English. -/
def StringKey.en : StringKey → String
  | .statusNew => "new"
  | .statusInvestigating => "investigating"
  | .statusResolved => "resolved"
  | .statusFalsePositive => "false positive"
  | .help =>
      "Woland Guard\n\n/status - server and incident summary\n/servers - monitored servers\n/incidents - recent incidents\n/critical - active critical incidents\n/lang ru|en - language of the bot's replies\n/help - this help\n\nThe bot answers linked operators only, and only in a private chat."
  | .unlinked =>
      "This account is not linked to a Woland Guard operator.\nYour Telegram ID: \x7btelegram_user_id\x7d\nSend it to an administrator to be linked through the local CLI."
  | .forbidden => "Insufficient permissions for this command."
  | .unknownCommand => "Unknown command. Send /help."
  | .languageUsage => "Usage: /lang ru or /lang en"
  | .languageChanged => "The bot will reply in English."
  | .callbackUnlinked => "This account is not linked to an operator. Contact an administrator."
  | .callbackForbidden => "Insufficient permissions for this action."
  | .callbackInvalid => "Invalid request."
  | .callbackRateLimited => "Too many requests. Try again later."
  | .reasonInvalid =>
      "The reason is invalid (1-1000 characters, no control characters). The action was cancelled - press the button again."
  | .reasonExpired => "The reason prompt expired. Press the button in the notification again."
  | .reasonPrompt =>
      "The \"\x7blabel\x7d\" action requires a reason.\nSend it as a single message (1-1000 characters).\nAny command, for example /help, cancels the action."
  | .incidentNotFound => "Incident not found."
  | .incidentStaleVersion =>
      "The incident already changed. Open the Dashboard to see its current status."
  | .incidentTransitionNotAllowed =>
      "That transition is not allowed from the incident's current status."
  | .incidentAlreadyApplied => "Already applied earlier: status \"\x7blabel\x7d\"."
  | .incidentStatusChanged => "Status changed to \"\x7blabel\x7d\"."
  | .incidentInProgress => "The action is already running. Try again later."
  | .incidentTransitionFailed => "Could not change the status. Try again later."
  | .ipBlockDisabled => "IP blocking is disabled on this deployment."
  | .ipBlockNoSourceAddress => "This incident has no source address to block."
  | .ipBlockProposed => "The plan is ready; details were sent in a separate message."
  | .ipBlockReused => "A plan already existed; details were sent in a separate message."
  | .ipBlockPlanNotFound => "Plan not found."
  | .ipBlockAlreadyDecided => "This plan was already decided."
  | .ipBlockExpired => "The plan expired. Prepare the block again."
  | .ipBlockSameOperator => "Only a different operator can approve this plan."
  | .ipBlockNowBlocked =>
      "This address can no longer be blocked (the allowlist or a protected range changed). The plan was rejected automatically."
  | .ipBlockApproved =>
      "Plan approved. The block was NOT applied: the control plane never executes commands, this only records the approval."
  | .ipBlockRejected => "Plan rejected."
  | .ipBlockRejectNotAnAddress => "The incident's source address is invalid."
  | .ipBlockRejectNeverBlock => "This address is protected from blocking."
  | .ipBlockRejectAllowlisted => "This address is allowlisted and cannot be blocked."
  | .proposalHeading => "IP block proposed (nothing was executed)"
  | .proposalAddress => "Address:"
  | .proposalIncident => "Incident:"
  | .proposalCommand => "Command:"
  | .proposalExpires => "Expires:"
  | .proposalApprovalNote => "An admin can approve it. Any analyst can reject it."
  | .overviewHeading => "Woland Guard status"
  | .overviewServers => "Servers:"
  | .overviewServersDetail => "\x7bactive\x7d active, \x7binactive\x7d inactive"
  | .overviewOpenIncidents => "Open incidents:"
  | .overviewCritical => "Critical among them:"
  | .overviewQueue => "Notification queue:"
  | .overviewPending => "pending:"
  | .overviewProcessing => "processing:"
  | .overviewDelivered => "delivered:"
  | .overviewFailed => "failed:"
  | .serversEmpty => "No servers are registered."
  | .serversHeading => "Servers:"
  | .serversActive => "active"
  | .serversInactive => "inactive"
  | .serversHost => "host:"
  | .serversOpenIncidents => "open incidents:"
  | .serversLastEvent => "last event:"
  | .incidentsHeading => "Incidents:"
  | .incidentsEmpty => "No incidents yet."
  | .incidentsEmptyCritical => "No active critical incidents."
  | .incidentsServer => "server:"
  | .incidentsStatus => "status:"
  | .incidentsEvents => "events:"
  | .incidentsLast => "last:"
  | .incidentsId => "id:"
  | .listTruncated => "Not all records are shown. The full list is in the Dashboard."
  | .buttonApprove => "Approve"
  | .buttonReject => "Reject"

/-- `tg`. -/
def tg (language : Language) (key : StringKey) : String :=
  match language with
  | .ru => key.ru
  | .en => key.en

/-- `str.format` with one named field, by characters. The first argument counts
the characters of a replaced field that are still to be passed over. -/
def fillField (field value : List Char) : Nat → List Char → List Char
  | _, [] => []
  | skip + 1, _ :: rest => fillField field value skip rest
  | 0, char :: rest =>
      if char = '\x7b' ∧ rest.take (field.length + 1) = field ++ ['\x7d'] then
        value ++ fillField field value (field.length + 1) rest
      else char :: fillField field value 0 rest

/-- `text.format(field=value)`. -/
def formatField (text field value : String) : String :=
  String.ofList (fillField field.toList value.toList 0 text.toList)

example : formatField (tg .en .incidentStatusChanged) "label" "resolved" =
    "Status changed to \"resolved\"." := by decide +kernel

end WolandGuard.Telegram
