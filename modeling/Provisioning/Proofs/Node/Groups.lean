import Mathlib.Data.List.TakeWhile
import Provisioning.Node

/-!
# The group of a hostname

A node that was launched into a group has the group, a hyphen and hexadecimal digits for its
hostname (`InGroup`).  A group may have hyphens of its own, and what stands between them may
look like digits, so there are several places at which a hostname could be taken apart.
Hexadecimal digits have no hyphen among them, though, so only the last hyphen can be the one
before the digits (`splitAtLastHyphen?_eq_some_iff`), and it is the only one that is looked
at.  So a group is told from every hostname of its nodes and from no other hostname
(`groupOf?_eq_some_iff`), and no hostname has two groups.
-/

namespace Provisioning

/-! ## Hexadecimal digits -/

/-- The hexadecimal digits. -/
def hexDigits : List Char :=
  ['0', '1', '2', '3', '4', '5', '6', '7', '8', '9', 'a', 'b', 'c', 'd', 'e', 'f', 'A', 'B', 'C',
    'D', 'E', 'F']

theorem toNat_lt_of_isHexDigit {c : Char} (h : isHexDigit c = true) : c.toNat < 128 := by
  simp [isHexDigit, Char.isDigit, Char.le_def, UInt32.le_iff_toNat_le, ← Char.toNat_val] at h ⊢
  omega

/-- The ranges of characters hold the digits and nothing else. -/
theorem isHexDigit_iff {c : Char} : isHexDigit c = true ↔ c ∈ hexDigits := by
  -- both sides hold of ASCII characters only, and these can be gone through
  have among : ∀ n < 128, isHexDigit (Char.ofNat n) = true → Char.ofNat n ∈ hexDigits := by
    decide
  have each : hexDigits.all isHexDigit = true := by
    decide
  constructor
  · intro h
    have hdigit := among c.toNat (toNat_lt_of_isHexDigit h)
    rw [Char.ofNat_toNat] at hdigit
    exact hdigit h
  · exact List.all_eq_true.mp each c

/-! ## The last hyphen -/

section LastHyphen

variable {cs before after : List Char}

/-- With no hyphen behind it, a hyphen is the last one. -/
theorem splitAtLastHyphen?_append (hlast : '-' ∉ after) :
    splitAtLastHyphen? (before ++ '-' :: after) = some (before, after) := by
  have hpos : ∀ c ∈ after.reverse, (c != '-') = true := by
    intro c hc
    rw [bne_iff_ne]
    intro heq
    rw [heq] at hc
    exact hlast (List.mem_reverse.mp hc)
  -- the text is searched from its end, where the part behind the hyphen comes first
  have hrow : (before ++ '-' :: after).reverse = after.reverse ++ '-' :: before.reverse := by
    simp
  rw [splitAtLastHyphen?, hrow, List.takeWhile_append_of_pos hpos,
    List.dropWhile_append_of_pos hpos]
  simp

theorem eq_append_of_splitAtLastHyphen? (h : splitAtLastHyphen? cs = some (before, after)) :
    cs = before ++ '-' :: after ∧ '-' ∉ after := by
  unfold splitAtLastHyphen? at h
  dsimp only at h
  split at h
  · cases h
  rename_i hyphen rest hdrop
  cases h
  have hhyphen : hyphen = '-' := by
    have hnot := List.head?_dropWhile_not (· != '-') cs.reverse
    rw [hdrop] at hnot
    simpa using hnot
  subst hhyphen
  constructor
  · calc
      cs = (cs.reverse.takeWhile (· != '-') ++ cs.reverse.dropWhile (· != '-')).reverse := by
        rw [List.takeWhile_append_dropWhile, List.reverse_reverse]
      _ = rest.reverse ++ '-' :: (cs.reverse.takeWhile (· != '-')).reverse := by
        rw [hdrop]
        simp
  · intro hmem
    have hnot := List.mem_takeWhile_imp (List.mem_reverse.mp hmem)
    exact absurd hnot (by decide)

/-- A text is taken apart at its last hyphen: there is none behind it. -/
theorem splitAtLastHyphen?_eq_some_iff :
    splitAtLastHyphen? cs = some (before, after) ↔ cs = before ++ '-' :: after ∧ '-' ∉ after := by
  constructor
  · exact eq_append_of_splitAtLastHyphen?
  · intro h
    rw [h.1]
    exact splitAtLastHyphen?_append h.2

end LastHyphen

/-! ## Groups -/

/-- The hostname is that of a node in the group: the group, which has a name, a hyphen and
one hexadecimal digit or more. -/
def InGroup (hostname group : String) : Prop :=
  group ≠ "" ∧ ∃ digits : String, digits ≠ "" ∧ (∀ c ∈ digits.toList, c ∈ hexDigits) ∧
    hostname = group ++ "-" ++ digits

theorem not_mem_of_hexDigits {cs : List Char} (h : ∀ c ∈ cs, c ∈ hexDigits) : '-' ∉ cs :=
  fun hmem => absurd (h '-' hmem) (by decide)

/-- The same, said of the characters. -/
theorem inGroup_iff {hostname group : String} :
    InGroup hostname group ↔ group.toList ≠ [] ∧ ∃ digits, digits ≠ [] ∧
      (∀ c ∈ digits, c ∈ hexDigits) ∧ hostname.toList = group.toList ++ '-' :: digits := by
  have hname : ∀ digits : String, (group ++ "-" ++ digits).toList =
      group.toList ++ '-' :: digits.toList := by
    intro digits
    simp [String.toList_append]
  rw [InGroup, Ne, Ne, String.toList_eq_nil_iff]
  refine and_congr_right fun _ => ?_
  constructor
  · intro h
    obtain ⟨digits, hdigits, hex, heq⟩ := h
    refine ⟨digits.toList, ?_, hex, ?_⟩
    · rwa [Ne, String.toList_eq_nil_iff]
    · rw [heq, hname]
  · intro h
    obtain ⟨digits, hdigits, hex, heq⟩ := h
    refine ⟨String.ofList digits, ?_, ?_, ?_⟩
    · rwa [Ne, ← String.toList_eq_nil_iff, String.toList_ofList]
    · rwa [String.toList_ofList]
    · rw [← String.toList_inj, hname, heq, String.toList_ofList]

/-- What is checked of the two texts around the last hyphen. -/
theorem splitsGroup_iff {before after : List Char} :
    (before.isEmpty || after.isEmpty || !after.all isHexDigit) = false ↔
      before ≠ [] ∧ after ≠ [] ∧ ∀ c ∈ after, c ∈ hexDigits := by
  simp only [Bool.or_eq_false_iff, Bool.not_eq_false', List.all_eq_true, isHexDigit_iff,
    List.isEmpty_eq_false_iff, and_assoc]

/-- A group is recognized in the hostnames of its nodes and in no others. -/
theorem groupOf?_eq_some_iff {hostname group : String} :
    groupOf? hostname = some group ↔ InGroup hostname group := by
  rw [inGroup_iff]
  constructor
  · intro h
    unfold groupOf? at h
    split at h
    · rename_i before after hsplit
      obtain ⟨heq, -⟩ := splitAtLastHyphen?_eq_some_iff.mp hsplit
      split at h
      · cases h
      · rename_i hchecked
        obtain ⟨hbefore, hafter, hex⟩ := splitsGroup_iff.mp (Bool.eq_false_iff.mpr hchecked)
        cases h
        rw [String.toList_ofList]
        exact ⟨hbefore, after, hafter, hex, heq⟩
    · cases h
  · intro h
    obtain ⟨hgroup, digits, hdigits, hex, heq⟩ := h
    have hsplit : splitAtLastHyphen? hostname.toList = some (group.toList, digits) :=
      splitAtLastHyphen?_eq_some_iff.mpr ⟨heq, not_mem_of_hexDigits hex⟩
    have hchecked := splitsGroup_iff.mpr ⟨hgroup, hdigits, hex⟩
    rw [groupOf?, hsplit]
    dsimp only
    rw [hchecked, String.ofList_toList]
    rfl

/-- A group is told from a hostname exactly if the hostname is that of a node in the group.
There is at most one such group, and if there is none then no group is told. -/
theorem hostnames_tell_their_group (hostname : String) :
    (∀ group, groupOf? hostname = some group ↔ InGroup hostname group) ∧
    (∀ group other, InGroup hostname group → InGroup hostname other → group = other) ∧
    (groupOf? hostname = none ↔ ∀ group, ¬InGroup hostname group) := by
  refine ⟨fun _ => groupOf?_eq_some_iff, ?_, ?_⟩
  · intro group other hgroup hother
    have hsame : some group = some other := by
      rw [← groupOf?_eq_some_iff.mpr hgroup, ← groupOf?_eq_some_iff.mpr hother]
    exact Option.some.inj hsame
  · rw [Option.eq_none_iff_forall_ne_some]
    exact forall_congr' fun _ => not_congr groupOf?_eq_some_iff

/-- A group with hyphens and what looks like digits in its name. -/
theorem nested_hostname_tells_its_group :
    InGroup "app-c0ffee-1A" "app-c0ffee" ∧ ¬InGroup "app-c0ffee-1A" "app" ∧
      groupOf? "app-c0ffee-1A" = some "app-c0ffee" := by
  have nested : InGroup "app-c0ffee-1A" "app-c0ffee" :=
    ⟨by decide, "1A", by decide, by simp [hexDigits], by decide⟩
  obtain ⟨recognized, unique, -⟩ := hostnames_tell_their_group "app-c0ffee-1A"
  refine ⟨nested, ?_, (recognized _).mpr nested⟩
  intro outer
  exact absurd (unique _ _ nested outer) (by decide)

end Provisioning
