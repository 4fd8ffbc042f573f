import WolandGuard.Administration.Replay

/-!
# What operations on destinations do

Every operation on a destination leaves the tables as they are, changes the row
of the destination, adds a destination that is switched off, or changes its row
together with its configuration (`DestinationEffect`). A destination that is
switched on afterwards was switched on before under the same name of its token
file, or the operation has found this file ready.
-/

set_option autoImplicit false

namespace WolandGuard.Administration

open Detection (Severity)
open Foundations Incidents IpBlocks Outbox Sessions Telegram

variable {moment : Moment} {tables after : AdministrationTables} {destinationId : Uuid}
variable {ready : String → Bool} {answer : DestinationSummary}

/-! ## Effects -/

/-- A change of the row of a destination and of its event. -/
structure RowChange (destinationId : Uuid) (change : DestinationRow → DestinationRow)
    (event : AdministrativeEvent) : Prop where
  id : ∀ row, (change row).id = row.id
  routing : ∃ adjusted : Routing → Routing,
    (∀ row, routingOf (change row) = adjusted (routingOf row)) ∧
      ∀ standing : Standing, standing.apply event =
        { standing with destinations := adjust standing.destinations destinationId adjusted }

/-- A new destination and its configuration. -/
structure NewDestination (tables : AdministrationTables) (destination : DestinationRow)
    (config : TelegramDestinationConfig) : Prop where
  sameId : config.destinationId = destination.id
  disabled : destination.enabled = false
  checked : config.Checked
  freshDestination : tables.destination? destination.id = none
  freshConfig : tables.config? destination.id = none
  freshRoute : ∀ other ∈ tables.configs, other.route ≠ config.route

/-- A change of the configuration of a destination to a given route. -/
structure ConfigChange (tables : AdministrationTables) (destinationId : Uuid)
    (config : TelegramDestinationConfig)
    (change : TelegramDestinationConfig → TelegramDestinationConfig) : Prop where
  found : tables.config? destinationId = some config
  id : ∀ row, (change row).destinationId = row.destinationId
  route : ∀ row, (change row).route = (change config).route
  checked : (change config).Checked
  freshRoute : ∀ other ∈ tables.configs, other.destinationId ≠ destinationId →
    other.route ≠ (change config).route

/-- **What an operation on a destination does.** -/
inductive DestinationEffect (tables : AdministrationTables) (destinationId : Uuid)
    (ready : String → Bool) : AdministrationTables → Prop where
  | unchanged : DestinationEffect tables destinationId ready tables
  | changed (change : DestinationRow → DestinationRow) (event : AdministrativeEvent)
      (entry : AuditLogEntry) : RowChange destinationId change event →
      readEvent entry = some event →
      ((∀ row, (change row).enabled = true → row.enabled = true) ∨
        ∃ config, tables.config? destinationId = some config ∧ ready config.tokenFileName = true) →
      DestinationEffect tables destinationId ready
        ((tables.updateDestination destinationId change).log entry)
  | created (destination : DestinationRow) (config : TelegramDestinationConfig)
      (entry : AuditLogEntry) : destination.id = destinationId →
      NewDestination tables destination config →
      readEvent entry = some (.destinationCreated destinationId destination.minimumSeverity) →
      DestinationEffect tables destinationId ready
        (({ tables with
          destinations := tables.destinations ++ [destination]
          configs := tables.configs ++ [config] } : AdministrationTables).log entry)
  | updated (destination : DestinationRow) (config : TelegramDestinationConfig)
      (change : DestinationRow → DestinationRow)
      (configChange : TelegramDestinationConfig → TelegramDestinationConfig)
      (event : AdministrativeEvent) (entry : AuditLogEntry) :
      tables.destination? destinationId = some destination → RowChange destinationId change event →
      (change destination).enabled = destination.enabled →
      ConfigChange tables destinationId config configChange → readEvent entry = some event →
      (destination.enabled = true → ready (configChange config).tokenFileName = true) →
      DestinationEffect tables destinationId ready
        (((tables.updateConfig destinationId configChange).updateDestination destinationId
          change).log entry)

/-! ## The operations -/

theorem loadPair_ok {destination : DestinationRow} {config : Option TelegramDestinationConfig}
    (loaded : loadPair tables destinationId = .ok (destination, config)) :
    tables.destination? destinationId = some destination ∧ config = tables.config? destinationId := by
  unfold loadPair at loaded
  split at loaded
  · cases loaded
  next row found =>
    obtain ⟨rfl, rfl⟩ := Prod.mk.inj (Except.ok.inj loaded)
    exact ⟨found, rfl⟩

/-- The tables that an operation commits with its entry. -/
theorem of_tell_map {changed : AdministrationTables} {event : AdministrativeEvent}
    {recorded : Except AuditValidationError AuditLogEntry} {told : DestinationSummary}
    (read_as : ReadAs recorded event)
    (done : (changed.tell recorded).map (·, told) = .ok (after, answer)) :
    ∃ entry, readEvent entry = some event ∧ after = changed.log entry := by
  cases outcome : changed.tell recorded with
  | error error =>
      rw [outcome] at done
      cases done
  | ok committed =>
      rw [outcome] at done
      obtain ⟨rfl, _⟩ := Prod.mk.inj (Except.ok.inj done)
      obtain ⟨entry, accepted, rfl⟩ := tell_ok.mp outcome
      exact ⟨entry, read_as entry accepted, rfl⟩

theorem createTelegramDestination_effect {chatId : Int} {tokenFileName : String}
    {minimumSeverity : Severity} {asked : String → Bool}
    (done : createTelegramDestination moment tables destinationId chatId tokenFileName
      minimumSeverity asked = .ok (after, answer)) :
    DestinationEffect tables destinationId ready after := by
  unfold createTelegramDestination at done
  split at done
  · cases done
  next chat =>
    split at done
    · cases done
    next name =>
      split at done
      · cases done
      next fresh =>
        simp only [not_or, Bool.not_eq_true, Option.isSome_eq_false_iff, Option.isNone_iff_eq_none,
          List.any_eq_false, decide_eq_true_eq] at fresh
        obtain ⟨fresh_destination, fresh_config, fresh_route⟩ := fresh
        obtain ⟨entry, read, rfl⟩ := of_tell_map tellLocally_readAs done
        refine .created _ _ entry rfl ⟨rfl, rfl, ?_, fresh_destination, fresh_config, fresh_route⟩ read
        exact ⟨by simpa using chat, by simpa using name, Int.le_refl _⟩

theorem setNotificationDestinationEnabled_effect {enabled : Bool}
    (done : setNotificationDestinationEnabled moment tables destinationId enabled ready =
      .ok (after, answer)) :
    DestinationEffect tables destinationId (fun name => enabled && ready name) after := by
  unfold setNotificationDestinationEnabled at done
  split at done
  · cases done
  next destination config loaded =>
    obtain ⟨found, rfl⟩ := loadPair_ok loaded
    split at done
    · cases done
    next permitted =>
      split at done
      · obtain ⟨rfl, _⟩ := Prod.mk.inj (Except.ok.inj done)
        exact .unchanged
      · obtain ⟨entry, read, rfl⟩ := of_tell_map tellLocally_readAs done
        refine .changed _ _ entry ⟨fun _ => rfl, (fun routing => { routing with enabled := enabled }),
          fun _ => rfl, fun standing => ?_⟩ read ?_
        · cases enabled <;> rfl
        · cases enabled with
          | false => exact .inl fun row on => by cases on
          | true => exact .inr (by simpa [Option.any_eq_true] using permitted)

theorem disableNotificationDestinationByOperator_effect {actor : OperatorPrincipal}
    {requestId : String}
    (done : disableNotificationDestinationByOperator moment tables actor destinationId requestId =
      .ok (after, answer)) : DestinationEffect tables destinationId ready after := by
  unfold disableNotificationDestinationByOperator at done
  split at done
  · cases done
  split at done
  · cases done
  split at done
  · obtain ⟨rfl, _⟩ := Prod.mk.inj (Except.ok.inj done)
    exact .unchanged
  · obtain ⟨entry, read, rfl⟩ := of_tell_map tellAsOperator_readAs done
    refine .changed _ _ entry ⟨fun _ => rfl, (fun routing => { routing with enabled := false }),
      fun _ => rfl, fun _ => rfl⟩ read (.inl fun row on => by cases on)

theorem updateNotificationDestinationSeverityByOperator_effect {actor : OperatorPrincipal}
    {minimumSeverity : Severity} {requestId : String}
    (done : updateNotificationDestinationSeverityByOperator moment tables actor destinationId
      minimumSeverity requestId = .ok (after, answer)) :
    DestinationEffect tables destinationId ready after := by
  unfold updateNotificationDestinationSeverityByOperator at done
  split at done
  · cases done
  split at done
  · cases done
  split at done
  · obtain ⟨rfl, _⟩ := Prod.mk.inj (Except.ok.inj done)
    exact .unchanged
  · obtain ⟨entry, read, rfl⟩ := of_tell_map tellAsOperator_readAs done
    refine .changed _ _ entry
      ⟨fun _ => rfl, (fun routing => { routing with minimumSeverity := minimumSeverity }),
        fun _ => rfl, fun _ => rfl⟩ read (.inl fun row on => on)

theorem updateTelegramDestination_effect {changes : DestinationChanges}
    (done : updateTelegramDestination moment tables destinationId changes ready =
      .ok (after, answer)) : DestinationEffect tables destinationId ready after := by
  unfold updateTelegramDestination at done
  split at done
  · cases done
  split at done
  · cases done
  · cases done
  next destination config loaded =>
    obtain ⟨found, configured⟩ := loadPair_ok loaded
    dsimp only at done
    split at done
    · cases done
    split at done
    · cases done
    split at done
    · cases done
    split at done
    · cases done
    next permitted =>
      split at done
      · cases done
      next unbroken =>
        simp only [not_or, not_not, Bool.not_eq_true, List.any_eq_false, Bool.and_eq_true,
          decide_eq_true_eq, not_and] at unbroken
        obtain ⟨checked, fresh_route⟩ := unbroken
        obtain ⟨entry, read, rfl⟩ := of_tell_map tellLocally_readAs done
        refine .updated destination config _ _ _ entry found ⟨fun _ => rfl,
          (fun routing => { routing with minimumSeverity := _ }), fun _ => rfl, fun _ => rfl⟩ rfl
          ⟨configured.symm, fun _ => rfl, fun _ => rfl, checked, fresh_route⟩ read ?_
        intro on
        simpa [on] using permitted

/-! ## What the log tells -/

/-- A change with the entry of its event. -/
theorem told_of_entry {changed : AdministrationTables} {entry : AuditLogEntry}
    {event : AdministrativeEvent} (read : readEvent entry = some event)
    (same_log : changed.auditLog = tables.auditLog)
    (applied : changed.standing = tables.standing.apply event) :
    TellsStanding tables (changed.log entry) := by
  have told : changed.tell (.ok entry) = .ok (changed.log entry) := rfl
  refine told_of_tell told (fun other recorded => ?_) same_log applied
  obtain rfl := Except.ok.inj recorded
  exact read

/-- **An operation on a destination tells what it did.** -/
theorem DestinationEffect.told (effect : DestinationEffect tables destinationId ready after) :
    TellsStanding tables after := by
  cases effect with
  | unchanged => exact .refl _
  | changed change event entry row read _ =>
      obtain ⟨adjusted, reads, applies⟩ := row.routing
      refine told_of_entry read rfl ?_
      rw [applies]
      exact Standing.ext rfl rfl rfl (viewOf_updateWhere row.id reads destinationId) rfl
  | created destination config entry same fresh read =>
      refine told_of_entry read rfl ?_
      have routing : routingOf destination = ⟨false, destination.minimumSeverity⟩ := by
        rw [routingOf, fresh.disabled]
      refine Standing.ext rfl rfl rfl ?_ rfl
      refine (viewOf_append fresh.freshDestination).trans ?_
      rw [routing, same]
      rfl
  | updated destination config change configChange event entry _ row _ _ read _ =>
      obtain ⟨adjusted, reads, applies⟩ := row.routing
      refine told_of_entry read rfl ?_
      rw [applies]
      exact Standing.ext rfl rfl rfl (viewOf_updateWhere row.id reads destinationId) rfl

/-! ## Routes -/

/-- Every destination has a configuration that meets its constraints, and no two
configurations have the same chat and token file. -/
structure RoutesConfigured (tables : AdministrationTables) : Prop where
  configured : ∀ id destination, tables.destination? id = some destination →
    ∃ config, tables.config? id = some config
  checked : ∀ config ∈ tables.configs, config.Checked
  keys : (tables.configs.map TelegramDestinationConfig.destinationId).Nodup
  routes : ∀ config ∈ tables.configs, ∀ other ∈ tables.configs, config.route = other.route →
    config.destinationId = other.destinationId

theorem RoutesConfigured.of_same (inv : RoutesConfigured tables) (same : SameRoutes tables after) :
    RoutesConfigured after := by
  obtain ⟨configured, checked, keys, routes⟩ := inv
  unfold AdministrationTables.destination? AdministrationTables.config? at configured
  rw [← same.destinations, ← same.configs] at configured
  rw [← same.configs] at checked keys routes
  exact ⟨configured, checked, keys, routes⟩

/-- A destination is switched on under the name of a token file. -/
def OnWith (tables : AdministrationTables) (destinationId : Uuid) (name : String) : Prop :=
  ∃ destination config, tables.destination? destinationId = some destination ∧
    destination.enabled = true ∧ tables.config? destinationId = some config ∧
    config.tokenFileName = name

theorem OnWith.of_same {name : String} (same : SameRoutes tables after)
    (on : OnWith after destinationId name) : OnWith tables destinationId name := by
  unfold OnWith AdministrationTables.destination? AdministrationTables.config? at on
  rw [same.destinations, same.configs] at on
  exact on

section Rows

variable {change : DestinationRow → DestinationRow}
variable {configChange : TelegramDestinationConfig → TelegramDestinationConfig}

/-- The row of a destination after a change of one. -/
theorem destination?_updateDestination (keeps : ∀ row, (change row).id = row.id) (id : Uuid) :
    (tables.updateDestination destinationId change).destination? id =
      (tables.destination? id).map fun row =>
        if decide (row.id = destinationId) then change row else row :=
  rowOf_updateWhere (fun row _ => keeps row) tables.destinations id

theorem config?_updateConfig
    (keeps : ∀ row, (configChange row).destinationId = row.destinationId) (id : Uuid) :
    (tables.updateConfig destinationId configChange).config? id =
      (tables.config? id).map fun row =>
        if decide (row.destinationId = destinationId) then configChange row else row :=
  rowOf_updateWhere (fun row _ => keeps row) tables.configs id

/-- A changed row, seen from its own destination and from another one. -/
theorem of_updateDestination {id : Uuid} {row : DestinationRow}
    (keeps : ∀ row, (change row).id = row.id)
    (found : (tables.updateDestination destinationId change).destination? id = some row) :
    ∃ old, tables.destination? id = some old ∧
      (id = destinationId ∧ row = change old ∨ id ≠ destinationId ∧ row = old) := by
  rw [destination?_updateDestination keeps] at found
  obtain ⟨old, old_row, rfl⟩ := Option.map_eq_some_iff.mp found
  have same : old.id = id := (rowOf_mem old_row).2
  refine ⟨old, old_row, ?_⟩
  by_cases here : id = destinationId
  · exact .inl ⟨here, by simp [same, here]⟩
  · exact .inr ⟨here, by simp [same, here]⟩

theorem of_updateConfig {id : Uuid} {row : TelegramDestinationConfig}
    (keeps : ∀ row, (configChange row).destinationId = row.destinationId)
    (found : (tables.updateConfig destinationId configChange).config? id = some row) :
    ∃ old, tables.config? id = some old ∧
      (id = destinationId ∧ row = configChange old ∨ id ≠ destinationId ∧ row = old) := by
  rw [config?_updateConfig keeps] at found
  obtain ⟨old, old_row, rfl⟩ := Option.map_eq_some_iff.mp found
  have same : old.destinationId = id := (rowOf_mem old_row).2
  refine ⟨old, old_row, ?_⟩
  by_cases here : id = destinationId
  · exact .inl ⟨here, by simp [same, here]⟩
  · exact .inr ⟨here, by simp [same, here]⟩

end Rows

/-- A row of a table with one more row. -/
theorem rowOf_append_single {ρ : Type} {key : ρ → Uuid} {rows : List ρ} {added row : ρ} {id : Uuid}
    (found : rowOf key (rows ++ [added]) id = some row) :
    rowOf key rows id = some row ∨ key added = id ∧ row = added := by
  rw [rowOf_append] at found
  cases old : rowOf key rows id with
  | some other =>
      rw [old] at found
      exact .inl found
  | none =>
      rw [old, Option.none_or] at found
      obtain ⟨member, same⟩ := rowOf_mem found
      obtain rfl := List.mem_singleton.mp member
      exact .inr ⟨same, rfl⟩

/-- **What an operation on a destination may leave switched on**: what was
switched on under this name before it, or its own destination when it has found
the file ready. -/
theorem DestinationEffect.on (effect : DestinationEffect tables destinationId ready after)
    {id : Uuid} {name : String} (on : OnWith after id name) :
    OnWith tables id name ∨ id = destinationId ∧ ready name = true := by
  obtain ⟨row, config, found, enabled, configured, rfl⟩ := on
  cases effect with
  | unchanged => exact .inl ⟨row, config, found, enabled, configured, rfl⟩
  | changed change event entry keeps _ allowed =>
      obtain ⟨old, old_row, ⟨rfl, rfl⟩ | ⟨_, rfl⟩⟩ := of_updateDestination keeps.id found
      · rcases allowed with before | ⟨confirmed, confirmed_row, is_ready⟩
        · exact .inl ⟨old, config, old_row, before old enabled, configured, rfl⟩
        · obtain rfl : confirmed = config := Option.some.inj (confirmed_row.symm.trans configured)
          exact .inr ⟨rfl, is_ready⟩
      · exact .inl ⟨_, config, old_row, enabled, configured, rfl⟩
  | created destination added entry same fresh _ =>
      have old_config : ∀ {other : DestinationRow}, tables.destination? id = some other →
          tables.config? id = some config := by
        intro other old_row
        rcases rowOf_append_single configured with old | ⟨added_id, _⟩
        · exact old
        · rw [fresh.sameId] at added_id
          have absent := fresh.freshDestination
          rw [added_id, old_row] at absent
          cases absent
      rcases rowOf_append_single found with old | ⟨_, rfl⟩
      · exact .inl ⟨row, config, old, enabled, old_config old, rfl⟩
      · rw [fresh.disabled] at enabled
        cases enabled
  | updated destination before change configChange event entry old_row keeps kept changes _ is_ready =>
      obtain ⟨old, found_old, ⟨rfl, rfl⟩ | ⟨_, rfl⟩⟩ := of_updateDestination keeps.id found
      · obtain rfl : destination = old := Option.some.inj (old_row.symm.trans found_old)
        obtain ⟨old_config, config_row, ⟨_, rfl⟩ | ⟨other, _⟩⟩ := of_updateConfig changes.id configured
        · obtain rfl : before = old_config :=
            Option.some.inj (changes.found.symm.trans config_row)
          exact .inr ⟨rfl, is_ready (kept ▸ enabled)⟩
        · exact absurd rfl other
      · obtain ⟨old_config, config_row, ⟨here, _⟩ | ⟨_, rfl⟩⟩ := of_updateConfig changes.id configured
        · contradiction
        · exact .inl ⟨_, _, found_old, enabled, config_row, rfl⟩

/-- The routes after a configuration has got a fresh one. -/
theorem RoutesConfigured.of_configChange {config : TelegramDestinationConfig}
    {change : TelegramDestinationConfig → TelegramDestinationConfig} (inv : RoutesConfigured tables)
    (changes : ConfigChange tables destinationId config change) :
    RoutesConfigured (tables.updateConfig destinationId change) := by
  -- a row is the changed one, or an old one of another destination
  have rows : ∀ row ∈ (tables.updateConfig destinationId change).configs,
      row.destinationId = destinationId ∧ row = change config ∨
        row.destinationId ≠ destinationId ∧ row ∈ tables.configs := by
    intro row member
    obtain ⟨old, old_member, rfl⟩ := mem_updateWhere.mp member
    by_cases here : old.destinationId = destinationId
    · have found := rowOf_of_mem inv.keys old_member
      rw [here] at found
      obtain rfl : old = config := Option.some.inj (found.symm.trans changes.found)
      exact .inl (by simp [here, changes.id])
    · exact .inr (by simp [here, old_member])
  refine ⟨fun id destination found => ?_, fun row member => ?_, ?_, ?_⟩
  · obtain ⟨old, old_row⟩ := inv.configured id destination found
    rw [config?_updateConfig changes.id, old_row]
    exact ⟨_, rfl⟩
  · rcases rows row member with ⟨_, rfl⟩ | ⟨_, old_member⟩
    · exact changes.checked
    · exact inv.checked row old_member
  · rw [AdministrationTables.updateConfig, map_updateWhere fun row _ => changes.id row]
    exact inv.keys
  · intro row member other other_member same
    rcases rows row member with ⟨here, rfl⟩ | ⟨away, old⟩ <;>
      rcases rows other other_member with ⟨other_here, other_same⟩ | ⟨other_away, other_old⟩
    · exact here.trans other_here.symm
    · exact absurd same.symm (changes.freshRoute other other_old other_away)
    · rw [other_same] at same
      exact absurd same (changes.freshRoute row old away)
    · exact inv.routes row old other other_old same

/-- **Operations on destinations keep the routes.** -/
theorem DestinationEffect.routesConfigured
    (effect : DestinationEffect tables destinationId ready after) (inv : RoutesConfigured tables) :
    RoutesConfigured after := by
  cases effect with
  | unchanged => exact inv
  | changed change event entry keeps _ _ =>
      refine ⟨fun id row found => ?_, inv.checked, inv.keys, inv.routes⟩
      obtain ⟨old, old_row, _⟩ := of_updateDestination keeps.id found
      exact inv.configured id old old_row
  | created destination config entry same fresh _ =>
      have absent : ∀ old ∈ tables.configs, old.destinationId ≠ destination.id :=
        rowOf_eq_none.mp fresh.freshConfig
      have added : rowOf TelegramDestinationConfig.destinationId (tables.configs ++ [config])
          destination.id = some config := by
        have none_before : rowOf TelegramDestinationConfig.destinationId tables.configs
            destination.id = none := fresh.freshConfig
        rw [rowOf_append, none_before]
        simp [rowOf, fresh.sameId]
      refine ⟨fun id row found => ?_, fun row member => ?_, ?_, ?_⟩
      · rcases rowOf_append_single found with old | ⟨rfl, _⟩
        · obtain ⟨old_config, old_row⟩ := inv.configured id row old
          exact ⟨old_config, rowOf_append_of_some old_row⟩
        · exact ⟨config, added⟩
      · rcases List.mem_append.mp member with old | new
        · exact inv.checked row old
        · exact List.mem_singleton.mp new ▸ fresh.checked
      · show ((tables.configs ++ [config]).map TelegramDestinationConfig.destinationId).Nodup
        rw [List.map_append, List.nodup_append]
        refine ⟨inv.keys, List.nodup_singleton _, fun id old other new => ?_⟩
        obtain ⟨row, member, rfl⟩ := List.mem_map.mp old
        rw [List.map_singleton, List.mem_singleton, fresh.sameId] at new
        exact new ▸ absent row member
      · intro row member other other_member same_route
        rcases List.mem_append.mp member with old | new <;>
          rcases List.mem_append.mp other_member with other_old | other_new
        · exact inv.routes row old other other_old same_route
        · rw [List.mem_singleton.mp other_new] at same_route
          exact absurd same_route (fresh.freshRoute row old)
        · rw [List.mem_singleton.mp new] at same_route
          exact absurd same_route.symm (fresh.freshRoute other other_old)
        · rw [List.mem_singleton.mp new, List.mem_singleton.mp other_new]
  | updated destination config change configChange event entry _ keeps _ changes _ _ =>
      have changed := inv.of_configChange changes
      refine ⟨fun id row found => ?_, changed.checked, changed.keys, changed.routes⟩
      obtain ⟨old, old_row, _⟩ := of_updateDestination keeps.id found
      exact changed.configured id old old_row

end WolandGuard.Administration
