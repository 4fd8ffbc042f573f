import WolandGuard.IpBlocks.Address

/-!
# The block policy

`application/ip_block_policy.py`: whether a source address may be proposed for
blocking, and the command that would block it.
-/

set_option autoImplicit false

namespace WolandGuard.IpBlocks

/-- One network that must never be blocked. -/
structure IpBlockAllowlistEntry where
  id : Uuid
  cidr : IpNetwork
  revokedAt : Option Int
  deriving DecidableEq, Repr

inductive BlockTargetRejectionReason where
  | notAnAddress
  | notCanonical
  | neverBlock
  | allowlisted
  deriving DecidableEq, Repr

structure BlockTargetDecision where
  allowed : Bool
  address : Option IpAddress
  rejectionReason : Option BlockTargetRejectionReason
  deriving DecidableEq, Repr

/-- `_NEVER_BLOCK_NETWORKS`. -/
def neverBlockNetworks : List IpNetwork :=
  [.v4 0x00000000 8, .v4 0x0a000000 8, .v4 0x64400000 10, .v4 0x7f000000 8,
    .v4 0xa9fe0000 16, .v4 0xac100000 12, .v4 0xc0000000 24, .v4 0xc0000200 24,
    .v4 0xc0a80000 16, .v4 0xc6120000 15, .v4 0xc6336400 24, .v4 0xcb007100 24,
    .v4 0xe0000000 4, .v4 0xf0000000 4, .v4 0xffffffff 32,
    .v6 0 128, .v6 1 128, .v6 (0xfc00 <<< 112) 7, .v6 (0xfe80 <<< 112) 10,
    .v6 (0xff00 <<< 112) 8, .v6 (0x20010000 <<< 96) 32, .v6 (0x2002 <<< 112) 16,
    .v6 (0x20010db8 <<< 96) 32]

/-- `_parse_canonical_address`. -/
def parseCanonicalAddress (rawAddress : String) : Option IpAddress :=
  if 1 ≤ rawAddress.length ∧ rawAddress.length ≤ 45 then parseAddress rawAddress else none

/-- `_has_scope_id`. -/
def hasScopeId : IpAddress → Bool
  | .v4 _ => false
  | .v6 _ scopeId => scopeId.isSome

/-- `_is_never_block`. -/
def isNeverBlock (address : IpAddress) : Bool :=
  (address.isLoopback || address.isLinkLocal || address.isMulticast || address.isUnspecified ||
    address.isReserved || address.isPrivate) ||
  neverBlockNetworks.any (·.contains address)

/-- `_is_allowlisted`. -/
def isAllowlisted (allowlist : List IpBlockAllowlistEntry) (address : IpAddress) : Bool :=
  allowlist.any fun entry => entry.revokedAt.isNone && entry.cidr.contains address

/-- `classify_block_target`. -/
def classifyBlockTarget (allowlist : List IpBlockAllowlistEntry) (rawAddress : String) :
    BlockTargetDecision :=
  match parseCanonicalAddress rawAddress with
  | none => ⟨false, none, some .notAnAddress⟩
  | some parsed =>
      if hasScopeId parsed || parsed.isIPv4Mapped || parsed.text != rawAddress then
        ⟨false, none, some .notCanonical⟩
      else if isNeverBlock parsed then ⟨false, some parsed, some .neverBlock⟩
      else if isAllowlisted allowlist parsed then ⟨false, some parsed, some .allowlisted⟩
      else ⟨true, some parsed, none⟩

/-- An allowed address is the canonical reading of its text. -/
theorem classifyBlockTarget_allowed {allowlist : List IpBlockAllowlistEntry} {rawAddress : String}
    (allowed : (classifyBlockTarget allowlist rawAddress).allowed = true) :
    ∃ address, classifyBlockTarget allowlist rawAddress = ⟨true, some address, none⟩ ∧
      address.text = rawAddress := by
  unfold classifyBlockTarget at *
  cases parsed : parseCanonicalAddress rawAddress with
  | none => simp [parsed] at allowed
  | some address =>
      simp only [parsed] at allowed ⊢
      split at allowed
      · cases allowed
      next canonical =>
        split at allowed
        · cases allowed
        split at allowed
        · cases allowed
        simp only [Bool.or_eq_true, not_or, bne_iff_ne, ne_eq, not_not] at canonical
        exact ⟨address, by simp_all, canonical.2⟩

example : classifyBlockTarget [] "8.8.8.8" = ⟨true, some (.v4 0x08080808), none⟩ := by
  decide +kernel

/-! ## The command -/

/-- `_NFT_IDENTIFIER_PATTERN`. -/
def isNftIdentifier (text : String) : Bool :=
  match text.toList with
  | [] => false
  | first :: rest =>
      ('a' ≤ first && first ≤ 'z') && rest.length ≤ 31 &&
        rest.all fun char => ('a' ≤ char && char ≤ 'z') || char.isDigit || char = '_'

/-- `IpBlockRuntimeSettings`. The names match the pattern that the command
asks for. -/
structure IpBlockRuntimeSettings where
  enabled : Bool
  requireSecondOperator : Bool
  planTtlSeconds : Nat
  nftTable : String
  nftSetV4 : String
  nftSetV6 : String
  planTtlSeconds_pos : 0 < planTtlSeconds
  names_valid : [nftTable, nftSetV4, nftSetV6].all isNftIdentifier = true

/-- The defaults of the `ip_block_*` settings. -/
def IpBlockRuntimeSettings.defaults : IpBlockRuntimeSettings where
  enabled := false
  requireSecondOperator := true
  planTtlSeconds := 3600
  nftTable := "woland_guard"
  nftSetV4 := "blocked_v4"
  nftSetV6 := "blocked_v6"
  planTtlSeconds_pos := by decide
  names_valid := by decide

/-- `build_nft_block_command`. -/
def buildNftBlockCommand (settings : IpBlockRuntimeSettings) (address : IpAddress) :
    List String :=
  let setName :=
    match address with
    | .v4 _ => settings.nftSetV4
    | .v6 _ _ => settings.nftSetV6
  ["nft", "add", "element", "inet", settings.nftTable, setName, "\x7b", address.text, "\x7d"]

end WolandGuard.IpBlocks
