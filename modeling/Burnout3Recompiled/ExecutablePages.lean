import Mathlib.Data.List.AList
import Mathlib.Logic.Function.Basic

/-!
# Executable pages

Pages are allocated writable, filled, made executable and freed.  An operation on a
page that is not in the state for it is a fault, so a program that does not fault
never frees a page twice, never writes to executable code and never runs code that
is writable or gone.  A ledger says which owner holds which page: every owner's page
is executable, nobody else holds it, and no live page is without an owner.
-/

namespace Burnout3Recompiled.ExecutablePages

inductive Protection where
  | readWrite | executeRead
  deriving DecidableEq, Repr

structure Page where
  bytes : List (BitVec 8)
  protection : Protection
  deriving DecidableEq, Repr

/-- The live pages by their addresses. -/
abbrev Pages := AList fun _ : Nat => Page

/-- Where the system puts a new page: anywhere but on a live one. -/
structure Allocator where
  place : Pages → Nat
  unused : ∀ pages : Pages, pages.lookup (place pages) = none

/-- A new page stands behind all live ones. -/
def Allocator.behind : Allocator where
  place pages := pages.keys.max?.getD 0 + 1
  unused pages := by
    rw [AList.lookup_eq_none]
    intro live
    have last := List.le_max?_getD_of_mem (AList.mem_keys.mp live) (k := 0)
    omega

def allocate (allocator : Allocator) (size : Nat) (pages : Pages) : Nat × Pages :=
  (allocator.place pages,
    pages.insert (allocator.place pages) ⟨List.replicate size 0#8, .readWrite⟩)

/-- Fill a writable page from its start. -/
def write (address : Nat) (bytes : List (BitVec 8)) (pages : Pages) : Option Pages :=
  match pages.lookup address with
  | some ⟨old, .readWrite⟩ =>
      if bytes.length ≤ old.length then
        some (pages.insert address ⟨bytes ++ old.drop bytes.length, .readWrite⟩)
      else none
  | _ => none

def protect (address : Nat) (pages : Pages) : Option Pages :=
  (pages.lookup address).map fun page =>
    pages.insert address { page with protection := .executeRead }

def free (address : Nat) (pages : Pages) : Option Pages :=
  (pages.lookup address).map fun _ => pages.erase address

/-- The code that a call of the page runs. -/
def fetchCode (address : Nat) (pages : Pages) : Option (List (BitVec 8)) :=
  match pages.lookup address with
  | some ⟨bytes, .executeRead⟩ => some bytes
  | _ => none

/-- Free page after page. -/
def freeAll (addresses : List Nat) (pages : Pages) : Option Pages :=
  addresses.foldlM (fun pages address => free address pages) pages

section Operations

variable {address : Nat} {bytes old : List (BitVec 8)} {pages : Pages} {page : Page}

theorem write_of_writable (found : pages.lookup address = some ⟨old, .readWrite⟩)
    (sameSize : bytes.length = old.length) :
    write address bytes pages = some (pages.insert address ⟨bytes, .readWrite⟩) := by
  rw [write, found]
  simp only [sameSize, le_refl, if_true, List.drop_length, List.append_nil]

theorem protect_of_live (found : pages.lookup address = some page) :
    protect address pages =
      some (pages.insert address { page with protection := .executeRead }) := by
  rw [protect, found]
  rfl

theorem free_of_live (found : pages.lookup address = some page) :
    free address pages = some (pages.erase address) := by
  rw [free, found]
  rfl

theorem fetchCode_of_executable (found : pages.lookup address = some ⟨bytes, .executeRead⟩) :
    fetchCode address pages = some bytes := by
  rw [fetchCode, found]

theorem erase_insert_of_unused (unused : pages.lookup address = none) :
    (pages.insert address page).erase address = pages := by
  rw [AList.lookup_eq_none] at unused
  apply AList.ext
  rw [AList.insert_of_notMem unused]
  exact List.kerase_cons_eq rfl

theorem eq_empty_of_lookup (gone : ∀ address, pages.lookup address = none) : pages = ∅ := by
  apply AList.ext
  rw [AList.empty_entries, List.eq_nil_iff_forall_not_mem]
  rintro ⟨address, page⟩ member
  have found : pages.lookup address = some page := AList.mem_lookup_iff.mpr member
  rw [gone] at found
  cases found

/-- Freeing different live pages goes through and leaves the others. -/
theorem freeAll_of_live {addresses : List Nat} (different : addresses.Nodup)
    (live : ∀ address ∈ addresses, ∃ page, pages.lookup address = some page) :
    ∃ rest, freeAll addresses pages = some rest ∧
      ∀ address, rest.lookup address =
        if address ∈ addresses then none else pages.lookup address := by
  induction addresses generalizing pages with
  | nil => exact ⟨pages, rfl, fun address => by simp⟩
  | cons first addresses ih =>
      obtain ⟨fresh, different⟩ := List.nodup_cons.mp different
      obtain ⟨page, found⟩ := live first List.mem_cons_self
      obtain ⟨rest, freed, left⟩ := @ih (pages.erase first) different
        (fun address member => by
          obtain ⟨page, found⟩ := live address (List.mem_cons_of_mem _ member)
          have distinct : address ≠ first := by
            rintro rfl
            exact fresh member
          exact ⟨page, (AList.lookup_erase_ne distinct).trans found⟩)
      refine ⟨rest, ?_, fun address => ?_⟩
      · rw [freeAll, List.foldlM_cons, free_of_live found]
        exact freed
      · rw [left address]
        by_cases same : address = first
        · subst same
          simp only [fresh, if_false, AList.lookup_erase, List.mem_cons, true_or, if_true]
        · simp only [AList.lookup_erase_ne same, List.mem_cons, same, false_or]

end Operations

section Ledger

variable {κ : Type*}

/-- Who holds which page with which code. -/
structure Ledger (pages : Pages) (holding : κ → Option (Nat × List (BitVec 8))) : Prop where
  executable : ∀ {owner address bytes}, holding owner = some (address, bytes) →
    pages.lookup address = some ⟨bytes, .executeRead⟩
  exclusive : ∀ {owner other address bytes otherBytes},
    holding owner = some (address, bytes) → holding other = some (address, otherBytes) →
      owner = other
  owned : ∀ {address page}, pages.lookup address = some page →
    ∃ owner bytes, holding owner = some (address, bytes)

namespace Ledger

variable {pages : Pages} {holding : κ → Option (Nat × List (BitVec 8))}
  {owner : κ} {address : Nat} {bytes : List (BitVec 8)}

theorem empty : Ledger ∅ fun _ : κ => none where
  executable := fun holds => by cases holds
  exclusive := fun holds => by cases holds
  owned := fun found => by simp at found

/-- All live pages are executable, none is writable. -/
theorem protection (ledger : Ledger pages holding) {page : Page}
    (found : pages.lookup address = some page) : page.protection = .executeRead := by
  obtain ⟨owner, bytes, holds⟩ := ledger.owned found
  rw [ledger.executable holds] at found
  exact (Option.some.inj found) ▸ rfl

theorem of_lookup (ledger : Ledger pages holding) {other : Pages}
    (same : ∀ address, other.lookup address = pages.lookup address) :
    Ledger other holding where
  executable := fun holds => (same _).trans (ledger.executable holds)
  exclusive := ledger.exclusive
  owned := fun found => ledger.owned ((same _).symm.trans found)

theorem ne_of_unused (ledger : Ledger pages holding) {fresh : Nat}
    (unused : pages.lookup fresh = none) (holds : holding owner = some (address, bytes)) :
    address ≠ fresh := by
  rintro rfl
  rw [ledger.executable holds] at unused
  cases unused

/-- Freeing the pages of all owners leaves no page, and there is one for each owner. -/
theorem freeAll (ledger : Ledger pages holding) {owners : List κ} {addressOf : κ → Nat}
    (different : owners.Nodup)
    (holds : ∀ owner ∈ owners, ∃ bytes, holding owner = some (addressOf owner, bytes))
    (covers : ∀ owner page, holding owner = some page → owner ∈ owners) :
    ExecutablePages.freeAll (owners.map addressOf) pages = some ∅ ∧
      pages.entries.length = owners.length := by
  have addressesDiffer : (owners.map addressOf).Nodup := by
    refine List.Nodup.map_on (fun first firstMember second secondMember same => ?_) different
    obtain ⟨bytes, firstHolds⟩ := holds first firstMember
    obtain ⟨otherBytes, secondHolds⟩ := holds second secondMember
    rw [same] at firstHolds
    exact ledger.exclusive firstHolds secondHolds
  have live : ∀ address, address ∈ owners.map addressOf ↔ address ∈ pages.keys := by
    intro address
    rw [← AList.mem_keys, ← AList.lookup_isSome, Option.isSome_iff_exists, List.mem_map]
    constructor
    · rintro ⟨owner, member, rfl⟩
      obtain ⟨bytes, held⟩ := holds owner member
      exact ⟨_, ledger.executable held⟩
    · rintro ⟨page, found⟩
      obtain ⟨owner, bytes, held⟩ := ledger.owned found
      have member := covers owner _ held
      obtain ⟨otherBytes, same⟩ := holds owner member
      rw [held] at same
      exact ⟨owner, member, (congrArg Prod.fst (Option.some.inj same)).symm⟩
  constructor
  · obtain ⟨rest, freed, left⟩ := freeAll_of_live addressesDiffer fun address member =>
      Option.isSome_iff_exists.mp
        (AList.lookup_isSome.mpr (AList.mem_keys.mpr ((live address).mp member)))
    rw [freed]
    refine congrArg some (eq_empty_of_lookup fun address => ?_)
    rw [left address]
    split
    · rfl
    · next gone =>
        refine AList.lookup_eq_none.mpr fun member => gone ?_
        exact (live address).mpr (AList.mem_keys.mp member)
  · have same := (List.perm_ext_iff_of_nodup addressesDiffer pages.keys_nodup).mpr live
    have lengths := same.length_eq
    rw [List.length_map] at lengths
    exact (List.length_map _).symm.trans lengths.symm

variable [DecidableEq κ]

/-- An owner without a page gets a new one. -/
theorem publish (ledger : Ledger pages holding) (without : holding owner = none)
    (unused : pages.lookup address = none) :
    Ledger (pages.insert address ⟨bytes, .executeRead⟩)
      (Function.update holding owner (some (address, bytes))) where
  executable := by
    intro other otherAddress otherBytes holds
    by_cases same : other = owner
    · subst same
      rw [Function.update_self] at holds
      obtain ⟨rfl, rfl⟩ := Prod.mk.inj (Option.some.inj holds)
      exact AList.lookup_insert pages
    · rw [Function.update_of_ne same] at holds
      rw [AList.lookup_insert_ne (ledger.ne_of_unused unused holds)]
      exact ledger.executable holds
  exclusive := by
    intro first second shared firstBytes secondBytes firstHolds secondHolds
    by_cases firstSame : first = owner <;> by_cases secondSame : second = owner
    · rw [firstSame, secondSame]
    · subst firstSame
      rw [Function.update_self] at firstHolds
      rw [Function.update_of_ne secondSame] at secondHolds
      obtain ⟨rfl, rfl⟩ := Prod.mk.inj (Option.some.inj firstHolds)
      exact absurd rfl (ledger.ne_of_unused unused secondHolds)
    · subst secondSame
      rw [Function.update_self] at secondHolds
      rw [Function.update_of_ne firstSame] at firstHolds
      obtain ⟨rfl, rfl⟩ := Prod.mk.inj (Option.some.inj secondHolds)
      exact absurd rfl (ledger.ne_of_unused unused firstHolds)
    · rw [Function.update_of_ne firstSame] at firstHolds
      rw [Function.update_of_ne secondSame] at secondHolds
      exact ledger.exclusive firstHolds secondHolds
  owned := by
    intro liveAddress page found
    by_cases same : liveAddress = address
    · subst same
      exact ⟨owner, bytes, Function.update_self ..⟩
    · rw [AList.lookup_insert_ne same] at found
      obtain ⟨other, otherBytes, holds⟩ := ledger.owned found
      have distinct : other ≠ owner := by
        rintro rfl
        rw [without] at holds
        cases holds
      exact ⟨other, otherBytes, (Function.update_of_ne distinct ..).trans holds⟩

/-- An owner gives its page back. -/
theorem release (ledger : Ledger pages holding)
    (holds : holding owner = some (address, bytes)) :
    Ledger (pages.erase address) (Function.update holding owner none) where
  executable := by
    intro other otherAddress otherBytes otherHolds
    by_cases same : other = owner
    · subst same
      rw [Function.update_self] at otherHolds
      cases otherHolds
    · rw [Function.update_of_ne same] at otherHolds
      have distinct : otherAddress ≠ address := by
        rintro rfl
        exact same (ledger.exclusive otherHolds holds)
      rw [AList.lookup_erase_ne distinct]
      exact ledger.executable otherHolds
  exclusive := by
    intro first second shared firstBytes secondBytes firstHolds secondHolds
    by_cases firstSame : first = owner
    · subst firstSame
      rw [Function.update_self] at firstHolds
      cases firstHolds
    · by_cases secondSame : second = owner
      · subst secondSame
        rw [Function.update_self] at secondHolds
        cases secondHolds
      · rw [Function.update_of_ne firstSame] at firstHolds
        rw [Function.update_of_ne secondSame] at secondHolds
        exact ledger.exclusive firstHolds secondHolds
  owned := by
    intro liveAddress page found
    by_cases same : liveAddress = address
    · subst same
      rw [AList.lookup_erase] at found
      cases found
    · rw [AList.lookup_erase_ne same] at found
      obtain ⟨other, otherBytes, otherHolds⟩ := ledger.owned found
      have distinct : other ≠ owner := by
        rintro rfl
        rw [holds] at otherHolds
        obtain ⟨rfl, rfl⟩ := Prod.mk.inj (Option.some.inj otherHolds)
        exact same rfl
      exact ⟨other, otherBytes, (Function.update_of_ne distinct ..).trans otherHolds⟩

/-- An owner puts a new page in the place of its old one, which is freed only after
the new one is executable. -/
theorem replace (ledger : Ledger pages holding) {old : Nat} {oldBytes : List (BitVec 8)}
    (holds : holding owner = some (old, oldBytes))
    (unused : pages.lookup address = none) :
    Ledger ((pages.insert address ⟨bytes, .executeRead⟩).erase old)
      (Function.update holding owner (some (address, bytes))) := by
  have distinct : address ≠ old := (ledger.ne_of_unused unused holds).symm
  have published : Ledger ((pages.erase old).insert address ⟨bytes, .executeRead⟩)
      (Function.update (Function.update holding owner none) owner
        (some (address, bytes))) :=
    (ledger.release holds).publish (Function.update_self ..)
      ((AList.lookup_erase_ne distinct).trans unused)
  rw [Function.update_idem] at published
  refine published.of_lookup fun other => ?_
  by_cases new : other = address
  · rw [new, AList.lookup_erase_ne distinct, AList.lookup_insert, AList.lookup_insert]
  · rw [AList.lookup_insert_ne new]
    by_cases gone : other = old
    · rw [gone, AList.lookup_erase, AList.lookup_erase]
    · rw [AList.lookup_erase_ne gone, AList.lookup_erase_ne gone, AList.lookup_insert_ne new]

end Ledger

end Ledger

end Burnout3Recompiled.ExecutablePages
