import WolandGuard.Foundations.Rows
import WolandGuard.IpBlocks.Policy

/-!
# The allowlist and the texts of commands

Adding and revoking a network through the local command line, what an allowed
address guarantees, and the characters of a command: its tokens are visible
ASCII characters, so no token can be read as two.
-/

set_option autoImplicit false

namespace WolandGuard.IpBlocks

open Foundations

/-! ## Networks -/

/-- `ip_network` of an address and the length of a prefix. -/
def parseNetwork (chars : List Char) : Option IpNetwork :=
  match chars.splitOn '/' with
  | [address, mask] =>
      if mask = [] ∨ mask.any (!·.isDigit) then none
      else
        let length := spelled 10 (mask.map fun char => char.toNat - '0'.toNat)
        match parseIPv4 address with
        | some base => if length ≤ 32 then some (.v4 base length) else none
        | none =>
            (parseIPv6 address).bind fun base =>
              if length ≤ 128 then some (.v6 base length) else none
  | _ => none

/-- No bit of the base is behind the prefix. -/
def IpNetwork.isStrict : IpNetwork → Bool
  | .v4 base length => base >>> (32 - length) <<< (32 - length) == base
  | .v6 base length => base >>> (128 - length) <<< (128 - length) == base

/-- `str(network)`. -/
def IpNetwork.text : IpNetwork → String
  | .v4 base length => (IpAddress.v4 base).text ++ "/" ++ toString length
  | .v6 base length => (IpAddress.v6 base none).text ++ "/" ++ toString length

/-- `_validate_cidr`. A text with a netmask or without a prefix is never the
text of its network. -/
def validateCidr (value : String) : Option IpNetwork :=
  (parseNetwork value.toList).filter fun network => network.isStrict && network.text == value

example : validateCidr "198.18.0.0/15" = some (.v4 0xc6120000 15) := by decide +kernel

example : validateCidr "198.18.0.1/15" = none := by decide +kernel

/-! ## Entries -/

/-- One request to add a network. -/
structure AllowlistRequest where
  entryId : Uuid
  cidr : String
  label : String
  reason : String
  deriving DecidableEq, Repr

/-- `add_allowlist_entry`. -/
def addAllowlistEntry (request : AllowlistRequest) (allowlist : List IpBlockAllowlistEntry) :
    Except String (List IpBlockAllowlistEntry) :=
  match validateCidr request.cidr with
  | none => .error "CIDR is not a valid network in strict canonical form"
  | some network =>
      if ¬(1 ≤ request.label.length ∧ request.label.length ≤ 100) then
        .error "label must contain 1 to 100 characters"
      else if ¬(1 ≤ request.reason.length ∧ request.reason.length ≤ 500) then
        .error "reason must contain 1 to 500 characters"
      else if allowlist.any fun entry => entry.cidr = network && entry.revokedAt.isNone then
        .error "an active allowlist entry already covers this network"
      else .ok (allowlist ++ [⟨request.entryId, network, none⟩])

/-- `revoke_allowlist_entry`. -/
def revokeAllowlistEntry (entryId : Uuid) (now : Int) (allowlist : List IpBlockAllowlistEntry) :
    Except String (List IpBlockAllowlistEntry) :=
  match rowOf IpBlockAllowlistEntry.id allowlist entryId with
  | none => .error "allowlist entry does not exist"
  | some entry =>
      if entry.revokedAt.isSome then .error "allowlist entry is already revoked"
      else
        .ok (updateWhere (·.id = entryId) (fun row => { row with revokedAt := some now }) allowlist)

/-! ## Allowed addresses -/

/-- A text is the canonical form of an address without a scope that is not an
IPv4-mapped one. -/
structure IsCanonical (rawAddress : String) (address : IpAddress) : Prop where
  parsed : parseCanonicalAddress rawAddress = some address
  unscoped : hasScopeId address = false
  unmapped : address.isIPv4Mapped = false
  text : address.text = rawAddress

/-- **The policy allows a canonical address that is neither in a never-block
range nor in an active network.** -/
theorem classifyBlockTarget_eq_allowed {allowlist : List IpBlockAllowlistEntry}
    {rawAddress : String} {address : IpAddress} :
    classifyBlockTarget allowlist rawAddress = ⟨true, some address, none⟩ ↔
      IsCanonical rawAddress address ∧ isNeverBlock address = false ∧
        isAllowlisted allowlist address = false := by
  unfold classifyBlockTarget
  constructor
  · intro allowed
    split at allowed
    · cases allowed
    next parsed found =>
      split at allowed
      · cases allowed
      next canonical =>
        split at allowed
        · cases allowed
        next blockable =>
          split at allowed
          · cases allowed
          next unlisted =>
            obtain rfl : parsed = address := by simpa using allowed
            simp only [Bool.or_eq_true, not_or, bne_iff_ne, ne_eq, not_not,
              Bool.not_eq_true] at canonical blockable unlisted
            exact ⟨⟨found, canonical.1.1, canonical.1.2, canonical.2⟩, blockable, unlisted⟩
  · rintro ⟨canonical, blockable, unlisted⟩
    simp [canonical.parsed, canonical.unscoped, canonical.unmapped, canonical.text, blockable,
      unlisted]

/-- An allowed decision has its address. -/
theorem classifyBlockTarget_of_allowed {allowlist : List IpBlockAllowlistEntry}
    {rawAddress : String} (allowed : (classifyBlockTarget allowlist rawAddress).allowed = true) :
    ∃ address, IsCanonical rawAddress address ∧ isNeverBlock address = false ∧
      isAllowlisted allowlist address = false := by
  obtain ⟨address, decision, _⟩ := classifyBlockTarget_allowed allowed
  exact ⟨address, classifyBlockTarget_eq_allowed.mp decision⟩

/-! ## Characters -/

/-- A visible ASCII character. -/
def isVisible (char : Char) : Bool := '!' ≤ char && char ≤ '~'

/-- All characters of a text are visible. -/
def Visible (text : String) : Prop := ∀ char ∈ text.toList, isVisible char = true

theorem isVisible_of_bounds {low high char : Char} (from_low : '!' ≤ low) (to_high : high ≤ '~')
    (above : low ≤ char) (below : char ≤ high) : isVisible char = true := by
  simp only [isVisible, Bool.and_eq_true, decide_eq_true_eq]
  exact ⟨Char.le_trans from_low above, Char.le_trans below to_high⟩

theorem isVisible_of_isDigit {char : Char} (digit : char.isDigit = true) :
    isVisible char = true := by
  simp only [Char.isDigit, Bool.and_eq_true, decide_eq_true_eq] at digit
  have first : '!' ≤ '0' := by decide
  have last : '9' ≤ '~' := by decide
  exact isVisible_of_bounds first last digit.1 digit.2

theorem Visible.append {left right : String} (first : Visible left) (second : Visible right) :
    Visible (left ++ right) := by
  intro char member
  rw [String.toList_append] at member
  exact (List.mem_append.mp member).elim (first char) (second char)

theorem Visible.intercalate {separator : String} (visible : Visible separator)
    {parts : List String} (all : ∀ part ∈ parts, Visible part) :
    Visible (separator.intercalate parts) := by
  induction parts with
  | nil => simp [Visible]
  | cons first rest ih =>
      have ih := ih fun part member => all part (List.mem_cons_of_mem _ member)
      cases rest with
      | nil => simpa using all first List.mem_cons_self
      | cons second rest =>
          rw [String.intercalate_cons_cons]
          exact ((all first List.mem_cons_self).append visible).append ih

theorem visible_digitChar {digit : Nat} (bound : digit < 16) :
    isVisible digit.digitChar = true := by
  revert digit
  decide

theorem visible_toDigits {base : Nat} (low : 1 < base) (high : base ≤ 16) (number : Nat) :
    ∀ char ∈ Nat.toDigits base number, isVisible char = true := by
  induction number using Nat.strongRecOn with
  | ind number ih =>
      rcases Nat.lt_or_ge number base with small | large
      · rw [Nat.toDigits_of_lt_base small]
        intro char member
        obtain rfl := List.mem_singleton.mp member
        exact visible_digitChar (by omega)
      · rw [Nat.toDigits_of_base_le low large]
        intro char member
        rcases List.mem_append.mp member with front | last
        · exact ih (number / base) (Nat.div_lt_self (by omega) low) char front
        · obtain rfl := List.mem_singleton.mp last
          exact visible_digitChar (Nat.lt_of_lt_of_le (Nat.mod_lt _ (by omega)) high)

theorem visible_joinHextets (hextets : List Nat) : Visible (joinHextets hextets) := by
  refine Visible.intercalate (by simp [Visible, isVisible]) ?_
  intro part member
  obtain ⟨hextet, _, rfl⟩ := List.mem_map.mp member
  simpa [Visible, hexNumber] using visible_toDigits (by decide) (by decide) hextet

theorem visible_ipv6Text (value : BitVec 128) : Visible (ipv6Text value) := by
  unfold ipv6Text
  dsimp only
  split
  · refine Visible.append (Visible.append (visible_joinHextets _) ?_) (visible_joinHextets _)
    simp [Visible, isVisible]
  · exact visible_joinHextets _

/-- The text of an address without a scope is visible. -/
theorem visible_text {address : IpAddress} (unscoped : hasScopeId address = false) :
    Visible address.text := by
  cases address with
  | v4 value =>
      refine Visible.intercalate (by simp [Visible, isVisible]) ?_
      intro part member
      obtain ⟨place, _, rfl⟩ := List.mem_map.mp member
      intro char in_part
      rw [show toString (value.toNat / 256 ^ (3 - place) % 256) =
        Nat.repr (value.toNat / 256 ^ (3 - place) % 256) from rfl, Nat.toList_repr] at in_part
      exact visible_toDigits (by decide) (by decide) _ char in_part
  | v6 value scopeId =>
      have none_here : scopeId = none := by simpa [hasScopeId] using unscoped
      subst none_here
      exact (visible_ipv6Text value).append (by simp [Visible])

/-! ## Lengths -/

theorem length_intercalate_le {separator : String} (single : separator.length = 1) {bound : Nat}
    {parts : List String} (short : ∀ part ∈ parts, part.length ≤ bound) :
    (separator.intercalate parts).length ≤ (bound + 1) * parts.length := by
  induction parts with
  | nil => simp
  | cons first rest ih =>
      have ih := ih fun part member => short part (List.mem_cons_of_mem _ member)
      have here := short first List.mem_cons_self
      cases rest with
      | nil =>
          rw [String.intercalate_singleton, List.length_singleton]
          omega
      | cons second rest =>
          rw [String.intercalate_cons_cons, String.length_append, String.length_append, single,
            List.length_cons, Nat.mul_succ]
          omega

theorem length_joinHextets {hextets : List Nat} (small : ∀ hextet ∈ hextets, hextet < 65536) :
    (joinHextets hextets).length ≤ 5 * hextets.length := by
  have parts : ∀ part ∈ hextets.map fun hextet => String.ofList (hexNumber hextet),
      part.length ≤ 4 := by
    intro part member
    obtain ⟨hextet, hextet_member, rfl⟩ := List.mem_map.mp member
    rw [String.length_ofList]
    exact (Nat.length_toDigits_le_iff (by decide) (by decide)).mpr (small hextet hextet_member)
  simpa [joinHextets] using length_intercalate_le rfl parts

theorem length_ipv6Text (value : BitVec 128) : (ipv6Text value).length ≤ 42 := by
  unfold ipv6Text
  dsimp only
  have small : ∀ hextet ∈ (List.range 8).map fun place =>
      value.toNat / 65536 ^ (7 - place) % 65536, hextet < 65536 := by
    intro hextet member
    obtain ⟨place, _, rfl⟩ := List.mem_map.mp member
    exact Nat.mod_lt _ (by decide)
  have eight : ((List.range 8).map fun place =>
      value.toNat / 65536 ^ (7 - place) % 65536).length = 8 := by simp
  generalize ((List.range 8).map fun place => value.toNat / 65536 ^ (7 - place) % 65536) = hextets
    at small eight
  generalize longestZeroRun hextets 0 (0, 0) (0, 0) = run
  obtain ⟨start, length⟩ := run
  dsimp only
  split
  · have front := @length_joinHextets (hextets.take start)
      fun hextet member => small hextet (List.mem_of_mem_take member)
    have back := @length_joinHextets (hextets.drop (start + length))
      fun hextet member => small hextet (List.mem_of_mem_drop member)
    have colons : "::".length = 2 := rfl
    rw [String.length_append, String.length_append, colons]
    rw [List.length_take] at front
    rw [List.length_drop] at back
    omega
  · have whole := length_joinHextets small
    omega

/-- The text of an address without a scope is short. -/
theorem length_text {address : IpAddress} (unscoped : hasScopeId address = false) :
    address.text.length ≤ 42 := by
  cases address with
  | v4 value =>
      have parts : ∀ part ∈ (List.range 4).map fun place =>
          toString (value.toNat / 256 ^ (3 - place) % 256), part.length ≤ 3 := by
        intro part member
        obtain ⟨place, _, rfl⟩ := List.mem_map.mp member
        rw [← String.length_toList, Nat.toString_eq_ofList_toDigits, String.toList_ofList,
          Nat.length_toDigits_le_iff (by decide) (by decide)]
        exact Nat.lt_of_lt_of_le (Nat.mod_lt _ (by decide)) (by decide)
      have joined := @length_intercalate_le "." rfl 3 _ parts
      rw [List.length_map, List.length_range] at joined
      exact Nat.le_trans joined (by decide)
  | v6 value scopeId =>
      cases scopeId with
      | none => simpa [IpAddress.text] using length_ipv6Text value
      | some scope => cases unscoped

/-! ## Commands -/

theorem visible_of_isNftIdentifier {text : String} (valid : isNftIdentifier text = true) :
    Visible text := by
  unfold isNftIdentifier at valid
  intro char member
  have letter : ∀ char : Char, 'a' ≤ char → char ≤ 'z' → isVisible char = true :=
    fun char above below => isVisible_of_bounds (by decide) (by decide) above below
  split at valid
  next empty =>
    rw [empty] at member
    cases member
  next first rest chars =>
    simp only [Bool.and_eq_true, decide_eq_true_eq, List.all_eq_true, Bool.or_eq_true] at valid
    rw [chars] at member
    rcases List.mem_cons.mp member with rfl | in_rest
    · exact letter char valid.1.1.1 valid.1.1.2
    · rcases valid.2 char in_rest with (small | digit) | rfl
      · exact letter char small.1 small.2
      · exact isVisible_of_isDigit digit
      · rfl

/-- **Every token of a command is visible.** -/
theorem visible_buildNftBlockCommand (settings : IpBlockRuntimeSettings) {address : IpAddress}
    (unscoped : hasScopeId address = false) :
    ∀ token ∈ buildNftBlockCommand settings address, Visible token := by
  have names := settings.names_valid
  simp only [List.all_cons, List.all_nil, Bool.and_true, Bool.and_eq_true] at names
  obtain ⟨table, setV4, setV6⟩ := names
  intro token member
  simp only [buildNftBlockCommand, List.mem_cons, List.not_mem_nil, or_false] at member
  rcases member with rfl | rfl | rfl | rfl | rfl | rfl | rfl | rfl | rfl
  · simp [Visible, isVisible]
  · simp [Visible, isVisible]
  · simp [Visible, isVisible]
  · simp [Visible, isVisible]
  · exact visible_of_isNftIdentifier table
  · cases address with
    | v4 value => exact visible_of_isNftIdentifier setV4
    | v6 value scopeId => exact visible_of_isNftIdentifier setV6
  · simp [Visible, isVisible]
  · exact visible_text unscoped
  · simp [Visible, isVisible]

/-- **The command adds the canonical text to the set of its family.** -/
theorem buildNftBlockCommand_of_canonical (settings : IpBlockRuntimeSettings) {text : String}
    {address : IpAddress} (canonical : IsCanonical text address) :
    ∃ nftSet,
      buildNftBlockCommand settings address =
        ["nft", "add", "element", "inet", settings.nftTable, nftSet, "\x7b", text, "\x7d"] ∧
      ((∃ value, address = .v4 value ∧ nftSet = settings.nftSetV4) ∨
        ∃ value, address = .v6 value none ∧ nftSet = settings.nftSetV6) := by
  obtain ⟨_, unscoped, _, rfl⟩ := canonical
  cases address with
  | v4 value => exact ⟨settings.nftSetV4, rfl, .inl ⟨value, rfl, rfl⟩⟩
  | v6 value scopeId =>
      cases scopeId with
      | none => exact ⟨settings.nftSetV6, rfl, .inr ⟨value, rfl, rfl⟩⟩
      | some scope => cases unscoped

end WolandGuard.IpBlocks
