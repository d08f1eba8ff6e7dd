import WebAcl.Feature.AddressList
import WebAcl.Proofs.AddressForms
import WebAcl.Proofs.Outcome

namespace WebAcl

open Text

namespace Cidr

variable {cs : List Char}

def IsAddress : IpVersion → List Char → Prop
  | .v4, cs => ∃ n < 0x100000000, cs = dotted n
  | .v6, cs => IsAddress6 cs

def width : IpVersion → Nat
  | .v4 => 32
  | .v6 => 128

/-- CIDR notation: an address, a slash and the length of the prefix. -/
def IsCidr (version : IpVersion) (cs : List Char) : Prop :=
  ∃ address bits, cs = address ++ '/' :: bits ∧ IsAddress version address ∧
    IsLength (width version) bits

/-- What is read as a block: CIDR notation, with no more digits than are read as a number, and two
other notations that only one of the versions has. -/
inductive IsBlock : IpVersion → List Char → Prop
  | cidr {version : IpVersion} {address bits : List Char} (isAddress : IsAddress version address)
    (isLength : IsLength (width version) bits) (short : bits.length ≤ digitLimit) :
    IsBlock version (address ++ '/' :: bits)
  | masked {address mask : List Char} (isAddress : IsAddress .v4 address) (isMask : IsMask mask) :
    IsBlock .v4 (address ++ '/' :: mask)
  | inScope {address scope bits : List Char} (isAddress : IsAddress .v6 address)
    (isScope : scope ≠ [] ∧ '%' ∉ scope ∧ '/' ∉ scope) (isLength : IsLength 128 bits)
    (short : bits.length ≤ digitLimit) : IsBlock .v6 (address ++ '%' :: scope ++ '/' :: bits)

def isAddressChar (c : Char) : Bool :=
  isHexDigit c || c == '.' || c == ':'

theorem isHexDigit_of_isDigit {c : Char} (h : c.isDigit = true) : isHexDigit c = true := by
  simp [isHexDigit, h]

theorem isAddressChar_dotted {n : Nat} {c : Char} (h : c ∈ dotted n) :
    isAddressChar c = true := by
  rcases mem_dotted h with h | rfl
  · simp [isAddressChar, isHexDigit_of_isDigit h]
  · rfl

theorem IsGroups.isAddressChar {tail : Bool} {n : Nat} (h : IsGroups tail n cs) :
    ∀ c ∈ cs, isAddressChar c = true := by
  have hgroup : ∀ {g}, IsGroup g → ∀ c ∈ g, Cidr.isAddressChar c = true := by
    intro g hg c hc
    simp [Cidr.isAddressChar, hg.2.2 c hc]
  induction h with
  | none => simp
  | last hg => exact hgroup hg
  | dotted => exact fun _ ↦ isAddressChar_dotted
  | cons hg _ ih =>
    intro c hc
    rcases List.mem_append.mp hc with hc | hc
    · exact hgroup hg c hc
    · rcases List.mem_cons.mp hc with rfl | hc
      · rfl
      · exact ih c hc

theorem IsAddress6.isAddressChar (h : IsAddress6 cs) : ∀ c ∈ cs, isAddressChar c = true := by
  cases h with
  | full groups => exact groups.isAddressChar
  | gap before after =>
    intro c hc
    rcases List.mem_append.mp hc with hc | hc
    · exact before.isAddressChar c hc
    · rcases List.mem_cons.mp hc with rfl | hc
      · rfl
      · rcases List.mem_cons.mp hc with rfl | hc
        · rfl
        · exact after.isAddressChar c hc

theorem IsAddress6.colon_mem (h : IsAddress6 cs) : ':' ∈ cs := by
  cases h with
  | full groups =>
    cases groups with
    | cons => simp
  | gap => simp

theorem IsAddress.not_mem {version : IpVersion} (h : IsAddress version cs) {c : Char}
    (hc : isAddressChar c = false) : c ∉ cs := by
  intro hmem
  have hchar : isAddressChar c = true := by
    cases version with
    | v4 =>
      obtain ⟨n, -, rfl⟩ := h
      exact isAddressChar_dotted hmem
    | v6 => exact IsAddress6.isAddressChar h c hmem
  simp [hchar] at hc

theorem IsLength.not_mem {n : Nat} (h : IsLength n cs) {c : Char} (hc : c.isDigit = false) :
    c ∉ cs := by
  obtain ⟨zeros, m, -, rfl⟩ := h
  intro hmem
  rcases List.mem_append.mp hmem with hmem | hmem
  · rw [List.eq_of_mem_replicate hmem] at hc
    exact absurd hc (by decide)
  · exact not_mem_toDigits hc m hmem

theorem IsMask.not_mem (h : IsMask cs) {c : Char} (hc : isAddressChar c = false) : c ∉ cs := by
  intro hmem
  have hchar : isAddressChar c = true := by
    obtain ⟨n, -, rfl | rfl⟩ := h
    · exact isAddressChar_dotted hmem
    · exact isAddressChar_dotted hmem
  simp [hchar] at hc

theorem withoutScope?_eq_some_iff {address : List Char} : withoutScope? cs = some address ↔
    '%' ∉ address ∧ (cs = address ∨
      ∃ scope, scope ≠ [] ∧ '%' ∉ scope ∧ cs = address ++ '%' :: scope) := by
  unfold withoutScope?
  constructor
  · intro h
    split at h
    next hparts =>
      obtain rfl := Option.some.inj h
      obtain ⟨-, hnot, rfl⟩ := splitOn_eq_iff.mp hparts
      exact ⟨hnot _ List.mem_cons_self, .inl (by simp [List.intercalate])⟩
    next scope hparts =>
      split at h
      · cases h
      next hne =>
        obtain rfl := Option.some.inj h
        obtain ⟨haddress, hscope, rfl⟩ := splitOn_eq_pair_iff.mp hparts
        exact ⟨haddress, .inr ⟨scope, by simpa using hne, hscope, rfl⟩⟩
    next => cases h
  · rintro ⟨haddress, rfl | ⟨scope, hne, hscope, rfl⟩⟩
    · rw [List.splitOn_eq_singleton haddress]
    · rw [splitOn_eq_pair_iff.mpr ⟨haddress, hscope, rfl⟩]
      simp [hne]

theorem exists_read4? {address bits : List Char} : (∃ block, read4? address bits = some block) ↔
    IsAddress .v4 address ∧ (IsLength 32 bits ∧ bits.length ≤ digitLimit ∨ IsMask bits) := by
  rw [← isSome_length4?]
  unfold read4? IsAddress
  simp only [Option.bind_eq_bind, Option.bind_eq_some_iff, address4?_eq_some_iff,
    Option.isSome_iff_exists, Option.pure_def, Option.some.injEq]
  constructor
  · rintro ⟨_, n, hn, bits, hbits, rfl⟩
    exact ⟨⟨n, hn⟩, bits, hbits⟩
  · rintro ⟨⟨n, hn⟩, bits, hbits⟩
    exact ⟨_, n, hn, bits, hbits, rfl⟩

theorem exists_read6? {text bits : List Char} : (∃ block, read6? text bits = some block) ↔
    (∃ address, withoutScope? text = some address ∧ IsAddress .v6 address) ∧
      IsLength 128 bits ∧ bits.length ≤ digitLimit := by
  rw [← isSome_length?]
  unfold read6? IsAddress
  simp only [← isSome_address6?, Option.bind_eq_bind, Option.bind_eq_some_iff,
    Option.isSome_iff_exists, Option.pure_def, Option.some.injEq]
  constructor
  · rintro ⟨_, n, ⟨address, haddress, hn⟩, bits, hbits, rfl⟩
    exact ⟨⟨address, haddress, n, hn⟩, bits, hbits⟩
  · rintro ⟨⟨address, haddress, n, hn⟩, bits, hbits⟩
    exact ⟨_, n, ⟨address, haddress, hn⟩, bits, hbits, rfl⟩

theorem version_of_read4? {address bits : List Char} {block : Cidr}
    (h : read4? address bits = some block) : block.version = .v4 := by
  simp only [read4?, Option.bind_eq_bind, Option.bind_eq_some_iff, Option.pure_def,
    Option.some.injEq] at h
  obtain ⟨_, -, _, -, rfl⟩ := h
  rfl

theorem version_of_read6? {address bits : List Char} {block : Cidr}
    (h : read6? address bits = some block) : block.version = .v6 := by
  simp only [read6?, Option.bind_eq_bind, Option.bind_eq_some_iff, Option.pure_def,
    Option.some.injEq] at h
  obtain ⟨_, -, _, -, rfl⟩ := h
  rfl

theorem read?_pair {address bits : List Char} (haddress : '/' ∉ address) (hbits : '/' ∉ bits) :
    read? (address ++ '/' :: bits) = (read4? address bits).or (read6? address bits) := by
  rw [read?, splitOn_eq_pair_iff.mpr ⟨haddress, hbits, rfl⟩]

theorem read4?_eq_none {address bits : List Char} (h : ':' ∈ address) :
    read4? address bits = none := by
  refine Option.eq_none_iff_forall_ne_some.mpr fun block hblock ↦ ?_
  obtain ⟨⟨n, -, rfl⟩, -⟩ := exists_read4?.mp ⟨block, hblock⟩
  exact colon_not_mem_dotted n h

theorem isBlock_of_read? {block : Cidr} (h : read? cs = some block) :
    IsBlock block.version cs := by
  unfold read? at h
  split at h
  next address bits hparts =>
    obtain ⟨haddress, hbits, rfl⟩ := splitOn_eq_pair_iff.mp hparts
    rcases Option.or_eq_some_iff.mp h with h | ⟨-, h⟩
    · rw [version_of_read4? h]
      obtain ⟨h4, ⟨hlength, hshort⟩ | hmask⟩ := exists_read4?.mp ⟨block, h⟩
      · exact .cidr h4 hlength hshort
      · exact .masked h4 hmask
    · rw [version_of_read6? h]
      obtain ⟨⟨plain, hplain, h6⟩, hlength, hshort⟩ := exists_read6?.mp ⟨block, h⟩
      obtain ⟨-, rfl | ⟨scope, hne, hscope, rfl⟩⟩ := withoutScope?_eq_some_iff.mp hplain
      · exact .cidr h6 hlength hshort
      · exact .inScope h6 ⟨hne, hscope, fun h ↦ haddress (by simp [h])⟩ hlength hshort
  next => cases h

theorem IsBlock.exists_read? {version : IpVersion} (h : IsBlock version cs) :
    ∃ block, read? cs = some block ∧ block.version = version := by
  cases h with
  | @cidr _ address bits haddress hlength hshort =>
    rw [read?_pair (haddress.not_mem (by decide)) (hlength.not_mem (by decide))]
    cases version with
    | v4 =>
      obtain ⟨block, hblock⟩ := exists_read4?.mpr ⟨haddress, .inl ⟨hlength, hshort⟩⟩
      exact ⟨block, by simp [hblock], version_of_read4? hblock⟩
    | v6 =>
      have hplain : withoutScope? address = some address :=
        withoutScope?_eq_some_iff.mpr ⟨haddress.not_mem (by decide), .inl rfl⟩
      obtain ⟨block, hblock⟩ :=
        exists_read6?.mpr ⟨⟨address, hplain, haddress⟩, hlength, hshort⟩
      rw [read4?_eq_none (IsAddress6.colon_mem haddress), Option.none_or]
      exact ⟨block, hblock, version_of_read6? hblock⟩
  | @masked address mask haddress hmask =>
    obtain ⟨block, hblock⟩ := exists_read4?.mpr ⟨haddress, .inr hmask⟩
    rw [read?_pair (haddress.not_mem (by decide)) (hmask.not_mem (by decide)), hblock,
      Option.some_or]
    exact ⟨block, rfl, version_of_read4? hblock⟩
  | @inScope address scope bits haddress hscope hlength hshort =>
    have hplain : withoutScope? (address ++ '%' :: scope) = some address :=
      withoutScope?_eq_some_iff.mpr
        ⟨haddress.not_mem (by decide), .inr ⟨scope, hscope.1, hscope.2.1, rfl⟩⟩
    obtain ⟨block, hblock⟩ := exists_read6?.mpr ⟨⟨address, hplain, haddress⟩, hlength, hshort⟩
    have hslash : '/' ∉ address ++ '%' :: scope := by
      have haddress' : '/' ∉ address := haddress.not_mem (by decide)
      simp [haddress', hscope.2.2]
    rw [read?_pair hslash (hlength.not_mem (by decide)),
      read4?_eq_none (List.mem_append_left _ (IsAddress6.colon_mem haddress)), Option.none_or]
    exact ⟨block, hblock, version_of_read6? hblock⟩

theorem read?_iff {version : IpVersion} :
    (∃ block, read? cs = some block ∧ block.version = version) ↔ IsBlock version cs := by
  constructor
  · rintro ⟨block, hblock, rfl⟩
    exact isBlock_of_read? hblock
  · exact fun h ↦ h.exists_read?

end Cidr

namespace AddressList

open Outcome

inductive Refuses (version : IpVersion) (entry : String) : String → Prop
  | noSlash (noSlash : '/' ∉ entry.toList) :
    Refuses version entry "missing CIDR prefix length"
  | noBlock (slash : '/' ∈ entry.toList) (noBlock : ∀ v, ¬ Cidr.IsBlock v entry.toList) :
    Refuses version entry (quoted entry ++ " does not appear to be an IPv4 or IPv6 network")
  | notV4 (isV4 : version = .v4) (isBlock : Cidr.IsBlock .v6 entry.toList) :
    Refuses version entry "expected an IPv4 network"
  | notV6 (isV6 : version = .v6) (isBlock : Cidr.IsBlock .v4 entry.toList) :
    Refuses version entry "expected an IPv6 network"

variable {field : String} {version : IpVersion}

theorem slash_mem {entry : List Char} (h : Cidr.IsBlock version entry) : '/' ∈ entry := by
  cases h <;> simp

theorem fault?_eq_none_iff {entry : String} :
    fault? version entry = none ↔ Cidr.IsBlock version entry.toList := by
  unfold fault?
  rw [← Cidr.read?_iff]
  constructor
  · intro h
    split at h
    · cases h
    · split at h
      · cases h
      next block hblock =>
        split at h
        next hversion => exact ⟨block, hblock, hversion⟩
        next => cases h
  · rintro ⟨block, hblock, hversion⟩
    have hmem := slash_mem (Cidr.read?_iff.mp ⟨block, hblock, hversion⟩)
    rw [if_neg (by simp [hmem])]
    simp [hblock, hversion]

theorem refuses_of_fault? {entry reason : String} (h : fault? version entry = some reason) :
    Refuses version entry reason := by
  unfold fault? at h
  split at h
  next hslash =>
    obtain rfl := Option.some.inj h
    exact .noSlash (by simpa using hslash)
  next hslash =>
    split at h
    next hnone =>
      obtain rfl := Option.some.inj h
      refine .noBlock (by simpa using hslash) fun v hv ↦ ?_
      obtain ⟨block, hblock, -⟩ := Cidr.read?_iff.mpr hv
      simp [hblock] at hnone
    next block hblock =>
      split at h
      next => cases h
      next hversion =>
        obtain rfl := Option.some.inj h
        have hother : Cidr.IsBlock block.version entry.toList :=
          Cidr.read?_iff.mp ⟨block, hblock, rfl⟩
        cases version <;> cases hv : block.version <;> rw [hv] at hversion hother
        · exact absurd rfl hversion
        · exact .notV4 rfl hother
        · exact .notV6 rfl hother
        · exact absurd rfl hversion

theorem fault?_of_refuses {entry reason : String} (h : Refuses version entry reason) :
    fault? version entry = some reason := by
  unfold fault?
  cases h with
  | noSlash hslash => rw [if_pos (by simp [hslash])]
  | noBlock hslash hnone =>
    have hread : Cidr.read? entry.toList = none := by
      refine Option.eq_none_iff_forall_ne_some.mpr fun block hblock ↦ ?_
      exact hnone block.version (Cidr.read?_iff.mp ⟨block, hblock, rfl⟩)
    rw [if_neg (by simp [hslash]), hread]
  | notV4 hversion hother | notV6 hversion hother =>
    obtain ⟨block, hblock, hv⟩ := Cidr.read?_iff.mpr hother
    subst hversion
    rw [if_neg (by simp [slash_mem hother])]
    simp [hblock, hv]

/-- The check of a list of addresses. It accepts a list if every entry is a block of the version,
and gives the entries without their surrounding white space; otherwise it reports the first entry
that is none, as it is written. -/
theorem checkAddresses_exactly (field : String) (version : IpVersion) (listed : List String) :
    (∀ checked, checkAddresses field version listed = .ok checked ↔
      (∀ entry ∈ listed, Cidr.IsBlock version (strip entry).toList) ∧
        checked = listed.map strip) ∧
    ∀ p, checkAddresses field version listed = .error p ↔
      ∃ before entry after reason, listed = before ++ entry :: after ∧
        (∀ e ∈ before, Cidr.IsBlock version (strip e).toList) ∧
        Refuses version (strip entry) reason ∧
        p = { cause := .invalidAddress field entry reason } := by
  have hok : ∀ {entry}, (∃ y, checkAddress field version entry = .ok y) ↔
      Cidr.IsBlock version (strip entry).toList := by
    intro entry
    rw [← fault?_eq_none_iff, checkAddress]
    cases fault? version (strip entry) <;> simp
  have hmap : (∀ entry ∈ listed, Cidr.IsBlock version (strip entry).toList) →
      checkAddresses field version listed = .ok (listed.map strip) := by
    intro h
    refine mapM_eq_ok fun entry hentry ↦ ?_
    rw [checkAddress, fault?_eq_none_iff.mpr (h entry hentry)]
  constructor
  · intro checked
    constructor
    · intro h
      have hall := fun entry hentry ↦ hok.mp (exists_eq_ok_of_mapM h entry hentry)
      exact ⟨hall, Except.ok.inj (h.symm.trans (hmap hall))⟩
    · rintro ⟨hall, rfl⟩
      exact hmap hall
  · intro p
    rw [checkAddresses, mapM_eq_error_iff]
    constructor
    · rintro ⟨before, entry, after, hsplit, hbefore, hentry⟩
      rw [checkAddress] at hentry
      cases hfault : fault? version (strip entry) with
      | none => simp [hfault] at hentry
      | some reason =>
        simp only [hfault, Except.error.injEq] at hentry
        exact ⟨before, entry, after, reason, hsplit, fun e he ↦ hok.mp (hbefore e he),
          refuses_of_fault? hfault, hentry.symm⟩
    · rintro ⟨before, entry, after, reason, hsplit, hbefore, hrefuses, rfl⟩
      refine ⟨before, entry, after, hsplit, fun e he ↦ hok.mpr (hbefore e he), ?_⟩
      rw [checkAddress, fault?_of_refuses hrefuses]

/-- A netmask is taken in place of the length of a prefix. -/
theorem netmask_accepted :
    checkAddresses "blocked_ipv4" .v4 ["192.0.2.0/255.255.255.0"] =
        .ok ["192.0.2.0/255.255.255.0"] ∧
      ¬ Cidr.IsCidr .v4 "192.0.2.0/255.255.255.0".toList := by
  constructor
  · rfl
  · rintro ⟨address, bits, hsplit, haddress, hlength⟩
    have hparts := splitOn_eq_pair_iff.mpr ⟨haddress.not_mem (c := '/') (by decide),
      hlength.not_mem (c := '/') (by decide), hsplit⟩
    have hbits : "255.255.255.0".toList = bits :=
      (List.cons.inj (List.cons.inj hparts).2).1
    have hpoint : '.' ∈ "255.255.255.0".toList := by decide
    exact hlength.not_mem (c := '.') (by decide) (hbits ▸ hpoint)

end AddressList

end WebAcl
