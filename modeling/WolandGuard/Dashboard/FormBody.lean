import WolandGuard.Data.UrlEncoded

/-!
# Bodies of forms

`web/form_body.py`: a body is collected from the messages of the server up to a
limit, and parsed into a dictionary with exactly the fields that a route allows.

However a body is cut into messages, a form is accepted exactly if it is written
in the body (`bounded_form_exact`).

What the `email` package reads from a content type is a parameter.
-/

set_option autoImplicit false

namespace WolandGuard.Dashboard

open UrlEncoded

structure BoundedFormError where
  statusCode : Nat
  detail : String
  deriving DecidableEq, Repr

/-! ## Headers -/

/-- A header: the bytes of its name and of its value. -/
abbrev Header := List Nat × List Nat

/-- `bytes.lower`. -/
def lowerBytes (bytes : List Nat) : List Nat :=
  bytes.map fun byte => if 65 ≤ byte ∧ byte ≤ 90 then byte + 32 else byte

/-- The values of the headers with a name. -/
def headerValues (name : String) (headers : List Header) : List (List Nat) :=
  (headers.filter fun header => lowerBytes header.1 = utf8 name).map Prod.snd

/-- `bytes.decode("ascii")`. -/
def asciiText (bytes : List Nat) : Option (List Char) :=
  if bytes.all (· < 0x80) then some (bytes.map Char.ofNat) else none

/-- What the `email` package reads from a content type: the type, and all its
parameters, where the first one is the type. Both are compared after `casefold`. -/
structure ContentTypeReader where
  contentType : String → String
  params : String → List (String × String)

/-- `content_type_is_allowed`. -/
def contentTypeIsAllowed (reader : ContentTypeReader) (value : String) : Bool :=
  if value = "" ∨ value.toList.any fun c => c = '\r' || c = '\n' then false
  else if reader.contentType value ≠ "application/x-www-form-urlencoded" then false
  else
    match reader.params value with
    | [] => false
    | [_] => true
    | [_, (name, parameterValue)] => name = "charset" && parameterValue = "utf-8"
    | _ => false

/-- `_validate_form_headers`. -/
def validateFormHeaders (reader : ContentTypeReader) (maxBodyBytes : Nat) (headers : List Header) :
    Except BoundedFormError Unit :=
  match headerValues "content-type" headers with
  | [contentType] =>
      -- latin-1
      if !contentTypeIsAllowed reader (String.ofList (contentType.map Char.ofNat)) then
        .error ⟨415, "unsupported form content type"⟩
      else if headerValues "content-encoding" headers ≠ [] then
        .error ⟨415, "encoded form bodies are not supported"⟩
      else
        match headerValues "content-length" headers with
        | [] => .ok ()
        | [length] =>
            match asciiText length with
            | none => .error ⟨400, "invalid content length"⟩
            | some digits =>
                if digits = [] ∨ digits.any (!·.isDigit) then .error ⟨400, "invalid content length"⟩
                else if maxBodyBytes < Nat.ofDigitChars 10 digits 0 then
                  .error ⟨413, "form body is too large"⟩
                else .ok ()
        | _ => .error ⟨400, "invalid content length"⟩
  | _ => .error ⟨415, "unsupported form content type"⟩

/-! ## Messages -/

/-- The `body` of a message. -/
inductive AsgiBody where
  | absent
  | bytes (chunk : List Nat)
  | otherType
  deriving DecidableEq, Repr

inductive AsgiMessage where
  | request (body : AsgiBody) (moreBody : Bool)
  | disconnect
  | otherType
  deriving DecidableEq, Repr

/-- `message.get("body", b"")`, if it is bytes. -/
def AsgiBody.chunk : AsgiBody → Option (List Nat)
  | .absent => some []
  | .bytes chunk => some chunk
  | .otherType => none

/-- `_read_bounded_body` on the messages that arrive, after some chunks. It waits
while no last message has arrived. -/
def readBoundedBody (maxBodyBytes : Nat) (chunks : List Nat) :
    List AsgiMessage → Option (Except BoundedFormError (List Nat))
  | [] => none
  | .disconnect :: _ => some (.error ⟨400, "request body was interrupted"⟩)
  | .otherType :: _ => some (.error ⟨400, "invalid request body"⟩)
  | .request body moreBody :: rest =>
      match body.chunk with
      | none => some (.error ⟨400, "invalid request body"⟩)
      | some chunk =>
          if maxBodyBytes < (chunks ++ chunk).length then
            some (.error ⟨413, "form body is too large"⟩)
          else if moreBody then readBoundedBody maxBodyBytes (chunks ++ chunk) rest
          else some (.ok (chunks ++ chunk))

/-- `BoundedFormBodyMiddleware`, on a request that changes something: the body that it
hands on. -/
def boundedFormBody (reader : ContentTypeReader) (maxBodyBytes : Nat) (headers : List Header)
    (messages : List AsgiMessage) : Option (Except BoundedFormError (List Nat)) :=
  match validateFormHeaders reader maxBodyBytes headers with
  | .error error => some (.error error)
  | .ok () => readBoundedBody maxBodyBytes [] messages

/-! ## Fields -/

/-- The fields of a route, and how many there may be. -/
structure FormSchema where
  allowedFields : List String
  requiredFields : List String
  maxFields : Nat

/-- The dictionary of some fields, if each is allowed and none comes twice. -/
def collectFields (allowed : List String) (result : List (String × String)) :
    List (String × String) → Option (List (String × String))
  | [] => some result
  | (key, value) :: pairs =>
      if key ∉ allowed ∨ key ∈ result.map Prod.fst then none
      else collectFields allowed (result ++ [(key, value)]) pairs

/-- `parse_bounded_form`. -/
def parseBoundedForm (schema : FormSchema) (body : List Nat) :
    Except BoundedFormError (List (String × String)) :=
  let invalid := Except.error ⟨422, "invalid form"⟩
  if schema.maxFields = 0 then invalid
  else
    match asciiText body with
    | none => invalid
    | some encoded =>
        if hasBareEscape encoded then invalid
        else
          match parseQsl encoded schema.maxFields with
          | none => invalid
          | some pairs =>
              match collectFields schema.allowedFields [] pairs with
              | none => invalid
              | some result =>
                  if schema.requiredFields.all fun name => name ∈ result.map Prod.fst then
                    .ok result
                  else invalid

/-! ## What is sent -/

/-- The messages carry a body, and end it. -/
inductive Sends : List AsgiMessage → List Nat → Prop where
  | last {body : AsgiBody} {chunk : List Nat} (rest : List AsgiMessage) :
      body.chunk = some chunk → Sends (.request body false :: rest) chunk
  | more {body : AsgiBody} {chunk : List Nat} {rest : List AsgiMessage} {bytes : List Nat} :
      body.chunk = some chunk → Sends rest bytes →
      Sends (.request body true :: rest) (chunk ++ bytes)

/-- A dictionary has the fields of a route. -/
structure FormSchema.Admits (schema : FormSchema) (form : List (String × String)) : Prop where
  some : schema.maxFields ≠ 0
  few : form.length ≤ schema.maxFields
  distinct : (form.map Prod.fst).Nodup
  allowed : ∀ field ∈ form, field.1 ∈ schema.allowedFields
  complete : ∀ name ∈ schema.requiredFields, name ∈ form.map Prod.fst

/-- **A body is read however it is cut**, if it is within the limit. -/
theorem readBoundedBody_eq_ok {maxBodyBytes : Nat} {chunks body : List Nat}
    {messages : List AsgiMessage} :
    readBoundedBody maxBodyBytes chunks messages = some (.ok body) ↔
      ∃ bytes, Sends messages bytes ∧ body = chunks ++ bytes ∧ body.length ≤ maxBodyBytes := by
  induction messages generalizing chunks with
  | nil =>
      constructor
      · intro read
        cases read
      · rintro ⟨bytes, sends, _⟩
        cases sends
  | cons message rest ih =>
      constructor
      · intro read
        cases message with
        | disconnect => cases read
        | otherType => cases read
        | request sent moreBody =>
            rw [readBoundedBody] at read
            split at read
            · cases read
            next chunk carried =>
              split at read
              · cases read
              next within =>
                split at read
                next more =>
                  obtain ⟨bytes, sends, rfl, small⟩ := ih.mp read
                  rw [more]
                  rw [List.append_assoc] at small ⊢
                  exact ⟨_, .more carried sends, rfl, small⟩
                next last =>
                  obtain rfl := Except.ok.inj (Option.some.inj read)
                  rw [Bool.not_eq_true] at last
                  rw [last]
                  exact ⟨chunk, .last rest carried, rfl, Nat.le_of_not_lt within⟩
      · rintro ⟨bytes, sends, rfl, small⟩
        cases sends with
        | last _ carried =>
            rw [readBoundedBody, carried]
            dsimp only
            rw [if_neg (Nat.not_lt.mpr small), if_neg Bool.false_ne_true]
        | @more sent chunk _ others carried later =>
            have first : (chunks ++ chunk).length ≤ maxBodyBytes := by
              simp only [List.length_append] at small ⊢
              omega
            rw [readBoundedBody, carried]
            dsimp only
            rw [if_neg (Nat.not_lt.mpr first), if_pos rfl]
            exact ih.mpr ⟨others, later, (List.append_assoc ..).symm, small⟩

theorem asciiText_eq_some {bytes : List Nat} {text : List Char} :
    asciiText bytes = some text ↔
      bytes = text.map Char.toNat ∧ ∀ c ∈ text, c.toNat < 0x80 := by
  unfold asciiText
  constructor
  · intro read
    split at read
    next small =>
      obtain rfl := Option.some.inj read
      have value : ∀ byte ∈ bytes, (Char.ofNat byte).toNat = byte ∧ byte < 0x80 := by
        intro byte member
        have ascii : byte < 0x80 := by simpa using List.all_eq_true.mp small byte member
        exact ⟨toNat_ofNat_of_valid (.inl (by omega)), ascii⟩
      refine ⟨?_, ?_⟩
      · rw [List.map_map]
        have same : bytes.map (Char.toNat ∘ Char.ofNat) = bytes.map id :=
          List.map_congr_left fun byte member => (value byte member).1
        rw [same, List.map_id]
      · intro c member
        obtain ⟨byte, there, rfl⟩ := List.mem_map.mp member
        rw [(value byte there).1]
        exact (value byte there).2
    · cases read
  · rintro ⟨rfl, ascii⟩
    have small : (text.map Char.toNat).all (· < 0x80) = true := by
      simpa using ascii
    rw [if_pos small, List.map_map]
    simp [Function.comp_def]

theorem collectFields_eq_some {allowed : List String} {result pairs form : List (String × String)}
    (begun : (result.map Prod.fst).Nodup) :
    collectFields allowed result pairs = some form ↔
      form = result ++ pairs ∧ (form.map Prod.fst).Nodup ∧ ∀ field ∈ pairs, field.1 ∈ allowed := by
  induction pairs generalizing result with
  | nil =>
      rw [collectFields, List.append_nil]
      constructor
      · intro same
        obtain rfl := Option.some.inj same
        exact ⟨rfl, begun, fun _ member => absurd member List.not_mem_nil⟩
      · rintro ⟨rfl, _⟩
        rfl
  | cons field pairs ih =>
      obtain ⟨key, value⟩ := field
      rw [collectFields]
      split
      next refused =>
        constructor
        · intro impossible
          cases impossible
        · rintro ⟨rfl, distinct, each⟩
          rcases refused with foreign | twice
          · exact absurd (each _ (List.mem_cons_self ..)) foreign
          · rw [List.map_append, List.map_cons, List.nodup_append] at distinct
            exact absurd rfl (distinct.2.2 key twice key (List.mem_cons_self ..))
      next accepted =>
        rw [not_or, not_not] at accepted
        have longer : ((result ++ [(key, value)]).map Prod.fst).Nodup := by
          rw [List.map_append, List.nodup_append]
          refine ⟨begun, List.nodup_singleton _, ?_⟩
          intro name there other member same
          obtain rfl : other = key := by simpa using member
          exact accepted.2 (same ▸ there)
        rw [ih longer, List.append_assoc, List.singleton_append]
        simp [accepted.1]

/-- **A form is parsed exactly from the bodies in which it is written.** -/
theorem parseBoundedForm_eq_ok {schema : FormSchema} {body : List Nat}
    {form : List (String × String)} :
    parseBoundedForm schema body = .ok form ↔
      schema.Admits form ∧ ∃ text, WritesForm form text ∧ body = text.map Char.toNat := by
  unfold parseBoundedForm
  dsimp only
  constructor
  · intro parsed
    split at parsed
    · cases parsed
    next some_fields =>
      split at parsed
      · cases parsed
      next encoded ascii =>
        obtain ⟨rfl, small⟩ := asciiText_eq_some.mp ascii
        split at parsed
        · cases parsed
        next whole =>
          rw [Bool.not_eq_true] at whole
          split at parsed
          · cases parsed
          next pairs read =>
            obtain ⟨writes, few⟩ := parseQsl_exact.mp ⟨⟨small, whole⟩, read⟩
            split at parsed
            · cases parsed
            next result collected =>
              split at parsed
              next complete =>
                obtain rfl := Except.ok.inj parsed
                have started : (List.map Prod.fst ([] : List (String × String))).Nodup :=
                  List.nodup_nil
                obtain ⟨rfl, distinct, each⟩ := (collectFields_eq_some started).mp collected
                exact ⟨⟨some_fields, few, distinct, each, by simpa using complete⟩, encoded, writes,
                  rfl⟩
              · cases parsed
  · rintro ⟨admits, text, writes, rfl⟩
    obtain ⟨escaped, read⟩ := parseQsl_exact.mpr ⟨writes, admits.few⟩
    have ascii : asciiText (text.map Char.toNat) = some text := asciiText_eq_some.mpr ⟨rfl, escaped.1⟩
    have collected : collectFields schema.allowedFields [] form = some form :=
      (collectFields_eq_some (show (List.map Prod.fst []).Nodup from List.nodup_nil)).mpr
        ⟨rfl, admits.distinct, admits.allowed⟩
    have complete : (schema.requiredFields.all fun name => name ∈ form.map Prod.fst) = true := by
      simpa using admits.complete
    rw [if_neg admits.some, ascii]
    dsimp only
    rw [escaped.2, if_neg Bool.false_ne_true, read]
    dsimp only
    rw [collected]
    dsimp only
    rw [if_pos complete]

/-- **The dashboard accepts exactly the forms of a route**: every form can be written,
and is read from every way to write it and to cut what is written into messages. -/
theorem bounded_form_exact (schema : FormSchema) (maxBodyBytes : Nat)
    (messages : List AsgiMessage) (form : List (String × String)) :
    (∃ text, WritesForm form text) ∧
      ((∃ body, readBoundedBody maxBodyBytes [] messages = some (.ok body) ∧
          parseBoundedForm schema body = .ok form) ↔
        schema.Admits form ∧ ∃ text, WritesForm form text ∧ text.length ≤ maxBodyBytes ∧
          Sends messages (text.map Char.toNat)) := by
  refine ⟨exists_writesForm form, ?_⟩
  constructor
  · rintro ⟨body, read, parsed⟩
    obtain ⟨bytes, sends, rfl, small⟩ := readBoundedBody_eq_ok.mp read
    obtain ⟨admits, text, writes, rfl⟩ := parseBoundedForm_eq_ok.mp parsed
    rw [List.length_map] at small
    exact ⟨admits, text, writes, small, sends⟩
  · rintro ⟨admits, text, writes, small, sends⟩
    refine ⟨text.map Char.toNat, readBoundedBody_eq_ok.mpr ⟨_, sends, rfl, ?_⟩,
      parseBoundedForm_eq_ok.mpr ⟨admits, text, writes, rfl⟩⟩
    rwa [List.length_map]

end WolandGuard.Dashboard
