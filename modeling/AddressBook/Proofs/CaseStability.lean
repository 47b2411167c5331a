import AddressBook.Text.Case
import Mathlib.Tactic.Common

/-!
# Changing case twice

Upper-casing and lower-casing settle a text in one step: what they leave is not
changed by doing it again.  A case table is stable if it has no entry for any
code point that one of its entries yields, which is decided on numbers whose
bits are the two sets.  A capital sigma looks at the letters around it, but
neither of its forms is a capital.
-/

namespace AddressBook
namespace Unicode

/-! ## Sets of code points as numbers -/

/-- The number whose bits stand at the given places. -/
def bitsOf (codes : List Nat) : Nat :=
  codes.foldr (fun code bits => bits ||| 1 <<< code) 0

theorem testBit_bitsOf {codes : List Nat} {code : Nat} :
    (bitsOf codes).testBit code = true ↔ code ∈ codes := by
  induction codes with
  | nil => simp [bitsOf]
  | cons first rest ih =>
      have hstep : bitsOf (first :: rest) = bitsOf rest ||| 1 <<< first := rfl
      rw [hstep, Nat.testBit_or, Nat.one_shiftLeft, Nat.testBit_two_pow,
        Bool.or_eq_true, ih, decide_eq_true_eq, List.mem_cons, or_comm, eq_comm]

theorem not_mem_of_bitsOf {codes others : List Nat} {code : Nat}
    (hdisjoint : bitsOf codes &&& bitsOf others = 0) (hmem : code ∈ codes) :
    code ∉ others := by
  intro hother
  have hcommon : (bitsOf codes &&& bitsOf others).testBit code = true := by
    rw [Nat.testBit_and, testBit_bitsOf.mpr hmem, testBit_bitsOf.mpr hother]
    rfl
  rw [hdisjoint, Nat.zero_testBit] at hcommon
  cases hcommon

/-! ## Stable tables -/

namespace CaseRun

def count (run : CaseRun) : Nat := (run.last - run.first) / run.step + 1

def sources (run : CaseRun) : List Nat :=
  List.range' run.first run.count run.step

def targets (run : CaseRun) : List Nat :=
  List.range' run.image run.count run.step

variable {run : CaseRun} {code next : Nat}

theorem Covers.exists_steps (hcovers : run.Covers code) :
    ∃ k < run.count, code - run.first = run.step * k := by
  obtain ⟨hfirst, hlast, hmod⟩ := hcovers
  obtain ⟨k, hk⟩ := Nat.dvd_of_mod_eq_zero hmod
  rcases Nat.eq_zero_or_pos run.step with hzero | hpos
  · refine ⟨0, Nat.succ_pos _, ?_⟩
    rw [hk, hzero, Nat.zero_mul, Nat.zero_mul]
  · refine ⟨k, Nat.lt_succ_of_le ((Nat.le_div_iff_mul_le hpos).mpr ?_), hk⟩
    rw [Nat.mul_comm, ← hk]
    omega

theorem mem_sources_of_covers (hcovers : run.Covers code) :
    code ∈ run.sources := by
  obtain ⟨k, hk, hsteps⟩ := hcovers.exists_steps
  have hfirst : run.first ≤ code := hcovers.1
  exact List.mem_range'.mpr ⟨k, hk, by omega⟩

theorem mem_targets_of_image? (himage : run.image? code = some next) :
    next ∈ run.targets := by
  unfold image? at himage
  obtain ⟨hcovers, hnext⟩ := Option.ite_none_right_eq_some.mp himage
  obtain ⟨k, hk, hsteps⟩ := hcovers.exists_steps
  rw [hsteps] at hnext
  exact List.mem_range'.mpr ⟨k, hk, (Option.some.inj hnext).symm⟩

end CaseRun

namespace CaseTable

/-- The code points that the table has an entry for. -/
def sources (table : CaseTable) : List Nat :=
  table.runs.flatMap (·.sources) ++ table.expansions.map (·.1)

/-- The code points that the entries of the table yield. -/
def targets (table : CaseTable) : List Nat :=
  table.runs.flatMap (·.targets) ++ table.expansions.flatMap (·.2)

structure Stable (table : CaseTable) : Prop where
  settled : ∀ code ∈ table.targets, code ∉ table.sources
  valid : ∀ code ∈ table.targets, code.isValidChar

variable {table : CaseTable} {code next : Nat} {c d : Char}

theorem image_of_not_mem_sources (hsettled : code ∉ table.sources) :
    table.image code = [code] := by
  unfold sources at hsettled
  rw [List.mem_append, not_or] at hsettled
  apply image_of_uncovered
  · apply List.lookup_eq_none_iff.mpr
    intro entry hentry
    rw [bne_iff_ne]
    intro hsame
    exact hsettled.2 (List.mem_map.mpr ⟨entry, hentry, hsame.symm⟩)
  · intro run hrun hcovers
    exact hsettled.1
      (List.mem_flatMap_of_mem hrun (CaseRun.mem_sources_of_covers hcovers))

/-- A code point maps to itself alone or to targets. -/
theorem mem_targets_of_mem_image (hnext : next ∈ table.image code) :
    table.image code = [code] ∨ next ∈ table.targets := by
  unfold image at hnext ⊢
  unfold targets
  rw [List.mem_append]
  cases hexpansion : table.expansion? code with
  | some codes =>
      rw [hexpansion] at hnext
      obtain ⟨before, after, hentries, -⟩ :=
        List.lookup_eq_some_iff.mp hexpansion
      have hentry : (code, codes) ∈ table.expansions := by
        rw [hentries]
        simp
      exact .inr (.inr (List.mem_flatMap_of_mem hentry hnext))
  | none =>
      cases hsingle : table.single? code with
      | none => exact .inl rfl
      | some moved =>
          simp only [hexpansion, hsingle, Option.getD_some,
            List.mem_singleton] at hnext
          obtain ⟨run, hrun, himage⟩ := List.exists_of_findSome?_eq_some hsingle
          rw [hnext]
          exact .inr (.inl (List.mem_flatMap_of_mem hrun
            (CaseRun.mem_targets_of_image? himage)))

theorem apply_of_not_mem_sources (hsettled : c.toNat ∉ table.sources) :
    table.apply c = [c] := by
  unfold apply
  rw [image_of_not_mem_sources hsettled, List.map_singleton, Char.ofNat_toNat]

theorem toNat_ofNat (hvalid : code.isValidChar) :
    (Char.ofNat code).toNat = code := by
  unfold Char.ofNat
  rw [dif_pos hvalid]
  rfl

theorem Stable.apply_of_mem_apply (hstable : table.Stable)
    (hd : d ∈ table.apply c) :
    table.apply d = [d] := by
  obtain ⟨code, hcode, rfl⟩ := List.mem_map.mp hd
  rcases mem_targets_of_mem_image hcode with hself | htarget
  · rw [hself, List.mem_singleton] at hcode
    rw [hcode, Char.ofNat_toNat]
    unfold apply
    rw [hself, List.map_singleton, Char.ofNat_toNat]
  · apply apply_of_not_mem_sources
    rw [toNat_ofNat (hstable.valid code htarget)]
    exact hstable.settled code htarget

end CaseTable

theorem uppercase_stable : uppercase.Stable where
  settled _ := not_mem_of_bitsOf (by decide +kernel)
  valid := by decide +kernel

theorem lowercase_stable : lowercase.Stable where
  settled _ := not_mem_of_bitsOf (by decide +kernel)
  valid := by decide +kernel

end Unicode

namespace Text

open Unicode

/-- On ASCII a case table does what an ASCII case mapping does, if it leaves
alone what the mapping does and agrees with it on the letters that the mapping
changes. -/
theorem apply_eq_of_ascii {table : CaseTable} {change : Char → Char}
    (hkept :
      bitsOf
          ((List.range 128).filter fun n =>
            change (Char.ofNat n) = Char.ofNat n) &&&
        bitsOf table.sources = 0)
    (hchanged :
      ∀ n ∈ (List.range 128).filter fun n =>
          change (Char.ofNat n) ≠ Char.ofNat n,
        table.apply (Char.ofNat n) = [change (Char.ofNat n)])
    {c : Char} (hascii : c.val < 128) : table.apply c = [change c] := by
  have hrange : c.toNat ∈ List.range 128 :=
    List.mem_range.mpr (UInt32.lt_iff_toNat_lt.mp hascii)
  by_cases hsame : change c = c
  · rw [hsame]
    apply CaseTable.apply_of_not_mem_sources
    apply not_mem_of_bitsOf hkept
    simp [hrange, hsame]
  · have hletter := hchanged c.toNat (by simp [hrange, hsame])
    rwa [Char.ofNat_toNat] at hletter

/-! ## Upper case -/

theorem upperChar_eq_apply (c : Char) : upperChar c = uppercase.apply c := by
  unfold upperChar
  split
  next hascii =>
    exact (apply_eq_of_ascii (by decide +kernel) (by decide +kernel)
      hascii).symm
  next => rfl

theorem flatMap_upperChar_of_settled {cs : List Char}
    (hsettled : ∀ c ∈ cs, uppercase.apply c = [c]) :
    cs.flatMap upperChar = cs := by
  induction cs with
  | nil => rfl
  | cons c rest ih =>
      obtain ⟨hhead, htail⟩ := List.forall_mem_cons.mp hsettled
      rw [List.flatMap_cons, ih htail, upperChar_eq_apply, hhead,
        List.singleton_append]

theorem upper_upper (s : String) : upper (upper s) = upper s := by
  rw [← String.toList_inj, toList_upper, toList_upper]
  apply flatMap_upperChar_of_settled
  intro d hd
  obtain ⟨c, -, hfrom⟩ := List.mem_flatMap.mp hd
  rw [upperChar_eq_apply] at hfrom
  exact uppercase_stable.apply_of_mem_apply hfrom

/-! ## Lower case -/

/-- A capital sigma apart, a character is lower-cased by the table. -/
theorem lowerChar_cases (before after : List Char) (c : Char) :
    lowerChar before after c = lowercase.apply c ∨
      c = 'Σ' ∧
        (lowerChar before after c = ['ς'] ∨
          lowerChar before after c = ['σ']) := by
  unfold lowerChar
  split
  next hascii =>
    exact .inl
      (apply_eq_of_ascii (by decide +kernel) (by decide +kernel) hascii).symm
  next =>
    split
    next hsigma =>
      refine .inr ⟨hsigma, ?_⟩
      split
      · exact .inl rfl
      · exact .inr rfl
    next => exact .inl rfl

theorem lowerChar_of_settled (before after : List Char) {c : Char}
    (hsettled : lowercase.apply c = [c]) : lowerChar before after c = [c] := by
  rcases lowerChar_cases before after c with htable | ⟨rfl, -⟩
  · rw [htable, hsettled]
  · have hmoved : lowercase.apply 'Σ' ≠ ['Σ'] := by decide +kernel
    exact absurd hsettled hmoved

theorem settled_of_mem_lowerChar {before after : List Char} {c d : Char}
    (hd : d ∈ lowerChar before after c) : lowercase.apply d = [d] := by
  rcases lowerChar_cases before after c with htable | ⟨-, hfinal | hmedial⟩
  · rw [htable] at hd
    exact lowercase_stable.apply_of_mem_apply hd
  · rw [hfinal, List.mem_singleton] at hd
    subst hd
    decide +kernel
  · rw [hmedial, List.mem_singleton] at hd
    subst hd
    decide +kernel

theorem lowerAfter_of_settled (before : List Char) {cs : List Char}
    (hsettled : ∀ c ∈ cs, lowercase.apply c = [c]) :
    lowerAfter before cs = cs := by
  induction cs generalizing before with
  | nil => rfl
  | cons c after ih =>
      obtain ⟨hhead, htail⟩ := List.forall_mem_cons.mp hsettled
      rw [lowerAfter, lowerChar_of_settled before after hhead,
        ih (c :: before) htail, List.singleton_append]

theorem settled_of_mem_lowerAfter {before cs : List Char} {d : Char}
    (hd : d ∈ lowerAfter before cs) : lowercase.apply d = [d] := by
  induction cs generalizing before with
  | nil => cases hd
  | cons c after ih =>
      rw [lowerAfter, List.mem_append] at hd
      rcases hd with hhead | htail
      · exact settled_of_mem_lowerChar hhead
      · exact ih htail

theorem lower_lower (s : String) : lower (lower s) = lower s := by
  rw [← String.toList_inj, toList_lower, toList_lower]
  apply lowerAfter_of_settled
  intro d hd
  exact settled_of_mem_lowerAfter hd

end Text
end AddressBook
