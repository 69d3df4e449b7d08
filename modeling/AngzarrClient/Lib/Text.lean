/-
Strings read as lists of characters: prefixes that a parser strips, fields joined
by a separator, numbers and bytes in digits, and Unix paths, which are the same
when they have the same components.
-/
import Mathlib.Data.List.Basic
import Mathlib.Tactic.Common

universe u

namespace Text

section Prefix

variable {α : Type u}

/-- A pattern without `c` ends before a `c`. -/
theorem prefix_append_cons_cons_iff {pattern base rest : List α} {b c : α}
    (hc : c ∉ pattern) :
    pattern <+: base ++ b :: c :: rest ↔
      pattern <+: base ∨ pattern = base ++ [b] := by
  constructor
  · intro hstarts
    rcases List.prefix_or_prefix_of_prefix hstarts
      (List.prefix_append base (b :: c :: rest)) with hbase | ⟨tail, rfl⟩
    · exact Or.inl hbase
    · rw [List.prefix_append_right_inj] at hstarts
      cases tail with
      | nil => exact Or.inl (by simp)
      | cons d tail =>
          obtain ⟨rfl, htail⟩ := List.cons_prefix_cons.mp hstarts
          cases tail with
          | nil => exact Or.inr rfl
          | cons d tail =>
              obtain ⟨rfl, -⟩ := List.cons_prefix_cons.mp htail
              exact absurd (by simp) hc
  · rintro (hbase | rfl)
    · exact hbase.trans (List.prefix_append _ _)
    · rw [List.prefix_append_right_inj]
      exact ⟨c :: rest, rfl⟩

end Prefix

/-- `s` without the prefix `pattern`, if it has it. -/
def stripPrefix (pattern s : String) : Option String :=
  if pattern.toList.isPrefixOf s.toList then
    some (String.ofList (s.toList.drop pattern.toList.length))
  else none

@[simp] theorem stripPrefix_append (pattern rest : String) :
    stripPrefix pattern (pattern ++ rest) = some rest := by
  rw [stripPrefix, String.toList_append, if_pos]
  · rw [List.drop_left, String.ofList_toList]
  · rw [List.isPrefixOf_iff_prefix]
    exact List.prefix_append _ _

theorem stripPrefix_eq_none_iff {pattern s : String} :
    stripPrefix pattern s = none ↔ ¬pattern.toList <+: s.toList := by
  rw [stripPrefix, ← List.isPrefixOf_iff_prefix]
  split
  · rename_i hstarts
    simp [hstarts]
  · rename_i hstarts
    simp [hstarts]

theorem exists_append_of_prefix {pattern s : String}
    (hstarts : pattern.toList <+: s.toList) : ∃ rest, s = pattern ++ rest := by
  obtain ⟨rest, hrest⟩ := hstarts
  refine ⟨String.ofList rest, String.toList_inj.mp ?_⟩
  rw [String.toList_append, String.toList_ofList, hrest]

section Joined

variable {α : Type u}

variable {front front' back back' : List α} {c : α}

/-- Two splits of one list at a separator agree, or one lies further right. -/
theorem append_separator_eq_iff :
    front ++ c :: back = front' ++ c :: back' ↔
      (front = front' ∧ back = back') ∨
        (∃ middle, front' = front ++ c :: middle ∧ back = middle ++ c :: back') ∨
          ∃ middle, front = front' ++ c :: middle ∧ back' = middle ++ c :: back := by
  constructor
  · intro heq
    rcases List.append_eq_append_iff.mp heq with ⟨middle, rfl, hmiddle⟩ | ⟨middle, rfl, hmiddle⟩
    · cases middle with
      | nil => exact Or.inl (by simpa using hmiddle)
      | cons d middle =>
          obtain ⟨rfl, rfl⟩ := List.cons.inj hmiddle
          exact Or.inr (Or.inl ⟨middle, rfl, rfl⟩)
    · cases middle with
      | nil => exact Or.inl (by simpa [eq_comm] using hmiddle)
      | cons d middle =>
          obtain ⟨rfl, rfl⟩ := List.cons.inj hmiddle
          exact Or.inr (Or.inr ⟨middle, rfl, rfl⟩)
  · rintro (⟨rfl, rfl⟩ | ⟨middle, rfl, rfl⟩ | ⟨middle, rfl, rfl⟩)
    · rfl
    · simp
    · simp

/-- A last field without the separator can be told from the others. -/
theorem append_separator_inj (hback : c ∉ back) (hback' : c ∉ back') :
    front ++ c :: back = front' ++ c :: back' ↔ front = front' ∧ back = back' := by
  rw [append_separator_eq_iff]
  constructor
  · rintro (heq | ⟨middle, -, rfl⟩ | ⟨middle, -, rfl⟩)
    · exact heq
    · exact absurd (by simp) hback
    · exact absurd (by simp) hback'
  · exact Or.inl

/-- A list can be cut at the separator in one way only if and only if neither part
holds another one. -/
theorem cut_unique_iff :
    (∀ front' back', front ++ c :: back = front' ++ c :: back' → front = front') ↔
      c ∉ front ∧ c ∉ back := by
  constructor
  · intro hunique
    refine ⟨fun hfront => ?_, fun hback => ?_⟩
    · obtain ⟨left, right, rfl⟩ := List.append_of_mem hfront
      have heq := hunique left (right ++ c :: back) (by simp)
      simp at heq
    · obtain ⟨left, right, rfl⟩ := List.append_of_mem hback
      have heq := hunique (front ++ c :: left) right (by simp)
      simp at heq
  · rintro ⟨hfront, hback⟩ front' back' heq
    exact ((List.append_cons_inj_of_notMem hfront hback).mp heq).1

/-- A cut that must leave something on its right passes over a separator in the last
place. -/
theorem cut_unique_of_ne_nil_iff (hne : back ≠ []) :
    (∀ front' back', back' ≠ [] → front ++ c :: back = front' ++ c :: back' →
        front = front') ↔
      c ∉ front ∧ c ∉ back.dropLast := by
  constructor
  · intro hunique
    refine ⟨fun hfront => ?_, fun hback => ?_⟩
    · obtain ⟨left, right, rfl⟩ := List.append_of_mem hfront
      have heq := hunique left (right ++ c :: back) (by simp) (by simp)
      simp at heq
    · obtain ⟨left, right, hdrop⟩ := List.append_of_mem hback
      have hlast := List.dropLast_append_getLast hne
      rw [hdrop, List.append_assoc, List.cons_append] at hlast
      have heq := hunique (front ++ c :: left) (right ++ [back.getLast hne]) (by simp) (by
        rw [List.append_assoc, List.cons_append, hlast])
      simp at heq
  · rintro ⟨hfront, hback⟩ front' back' hne' heq
    rcases append_separator_eq_iff.mp heq with ⟨rfl, -⟩ | ⟨middle, -, rfl⟩ | ⟨middle, rfl, -⟩
    · rfl
    · rw [List.dropLast_append_of_ne_nil (by simp), List.dropLast_cons_of_ne_nil hne'] at hback
      exact absurd (by simp) hback
    · exact absurd (by simp) hfront

end Joined

theorem append_colon_inj {front front' back back' : String} (hback : ':' ∉ back.toList)
    (hback' : ':' ∉ back'.toList) :
    front ++ ":" ++ back = front' ++ ":" ++ back' ↔ front = front' ∧ back = back' := by
  rw [← String.toList_inj, ← @String.toList_inj front, ← @String.toList_inj back,
    ← append_separator_inj hback hback']
  simp

/-- The decimal digits of a number determine it. -/
theorem repr_inj {m n : Nat} : toString m = toString n ↔ m = n := by
  constructor
  · intro heq
    have hdigits : Nat.toDigits 10 m = Nat.toDigits 10 n := String.ofList_inj.mp heq
    rw [← Nat.ofDigitChars_toDigits (b := 10) (n := m) (by decide) (by decide), hdigits]
    exact Nat.ofDigitChars_toDigits (by decide) (by decide)
  · rintro rfl
    rfl

theorem not_mem_repr {c : Char} (hc : c.isDigit = false) (n : Nat) : c ∉ (toString n).toList := by
  intro hmem
  have hdigits : c ∈ Nat.toDigits 10 n := by simpa [toString, Nat.repr] using hmem
  have hdigit := Nat.isDigit_of_mem_toDigits (by decide) (by decide) hdigits
  rw [hc] at hdigit
  cases hdigit

section Hex

/-- Two lower-case hexadecimal digits. -/
def hexByte (byte : UInt8) : List Char :=
  [Nat.digitChar (byte.toNat / 16), Nat.digitChar (byte.toNat % 16)]

/-- Bytes in lower-case hexadecimal digits. -/
def hexEncode (bytes : List UInt8) : String :=
  String.ofList (bytes.flatMap hexByte)

theorem digitChar_inj : ∀ m < 16, ∀ n < 16, Nat.digitChar m = Nat.digitChar n → m = n := by
  decide

theorem hexByte_inj {a b : UInt8} (heq : hexByte a = hexByte b) : a = b := by
  have ha := a.toNat_lt
  have hb := b.toNat_lt
  simp only [hexByte, List.cons.injEq, and_true] at heq
  have hhigh := digitChar_inj _ (by omega) _ (by omega) heq.1
  have hlow := digitChar_inj _ (by omega) _ (by omega) heq.2
  rw [← UInt8.toNat_inj]
  omega

theorem hexEncode_inj {left right : List UInt8} :
    hexEncode left = hexEncode right ↔ left = right := by
  rw [hexEncode, hexEncode, String.ofList_inj]
  constructor
  · intro heq
    induction left generalizing right with
    | nil =>
        cases right with
        | nil => rfl
        | cons b right => cases heq
    | cons a left ih =>
        cases right with
        | nil => cases heq
        | cons b right =>
            rw [List.flatMap_cons, List.flatMap_cons] at heq
            obtain ⟨hbyte, hrest⟩ := List.append_inj heq rfl
            rw [hexByte_inj hbyte, ih hrest]
  · rintro rfl
    rfl

theorem digitChar_mem : ∀ n < 16, Nat.digitChar n ∈ "0123456789abcdef".toList := by
  decide

theorem mem_hexEncode (bytes : List UInt8) :
    ∀ c ∈ (hexEncode bytes).toList, c ∈ "0123456789abcdef".toList := by
  intro c hmem
  rw [hexEncode, String.toList_ofList, List.mem_flatMap] at hmem
  obtain ⟨byte, -, hmem⟩ := hmem
  have hbyte := byte.toNat_lt
  simp only [hexByte, List.mem_cons, List.not_mem_nil, or_false] at hmem
  rcases hmem with rfl | rfl
  · exact digitChar_mem _ (by omega)
  · exact digitChar_mem _ (by omega)

theorem hexEncode_append (left right : List UInt8) :
    (hexEncode (left ++ right)).toList =
      (hexEncode left).toList ++ (hexEncode right).toList := by
  simp [hexEncode]

end Hex

end Text

namespace UnixPath

/-- A component of a path; `..` is a name like any other. -/
inductive Component
  | rootDir
  | curDir
  | named (name : List Char)
deriving DecidableEq, Repr

/-- The first component, where it is not a name. -/
def lead (path : List Char) : List Component :=
  if path.head? = some '/' then [.rootDir]
  else if (path.splitOn '/').head? = some ['.'] then [.curDir]
  else []

/-- The components of a path.  Repeated separators count once, and a `.` is
dropped unless it comes first. -/
def components (path : List Char) : List Component :=
  lead path ++ ((path.splitOn '/').filter fun name => name ≠ [] ∧ name ≠ ['.']).map .named

/-- Two spellings of one path. -/
def Same (left right : String) : Prop :=
  components left.toList = components right.toList

instance (left right : String) : Decidable (Same left right) :=
  inferInstanceAs (Decidable (_ = _))

theorem Same.rfl {path : String} : Same path path := Eq.refl _

theorem splitOn_separator (c : Char) (chars : List Char) :
    (c :: chars).splitOn c = [] :: chars.splitOn c := by
  rw [List.splitOn, List.splitOnP_cons_eq_if_modifyHead]
  simp [List.splitOn]

/-- A further separator in front of an absolute path changes nothing. -/
theorem components_separator_cons {path : List Char} (habsolute : path.head? = some '/') :
    components ('/' :: path) = components path := by
  have hlead : lead ('/' :: path) = lead path := by
    rw [lead, lead, if_pos habsolute, if_pos List.head?_cons]
  rw [components, components, hlead, splitOn_separator, List.filter_cons_of_neg (by simp)]

/-- An absolute path starts at the root, a relative one does not. -/
theorem head?_components_eq_rootDir_iff {path : List Char} :
    (components path).head? = some .rootDir ↔ path.head? = some '/' := by
  rw [components, lead]
  split
  · rename_i habsolute
    simp [habsolute]
  · rename_i hrelative
    split
    · simp [hrelative]
    · simp [hrelative]

/-- Two more separators in front leave an absolute path the same, and make any
other path a different one. -/
theorem same_separators_iff {path : String} :
    Same ("//" ++ path) path ↔ ['/'] <+: path.toList := by
  rw [Same, String.toList_append, List.singleton_prefix_iff_head?_eq_some]
  change components ('/' :: '/' :: path.toList) = components path.toList ↔ _
  constructor
  · intro hsame
    rw [← head?_components_eq_rootDir_iff, ← hsame]
    exact head?_components_eq_rootDir_iff.mpr List.head?_cons
  · intro habsolute
    rw [components_separator_cons List.head?_cons, components_separator_cons habsolute]

/-- The names in a path. -/
def names (path : List Char) : List Component :=
  ((path.splitOn '/').filter fun name => name ≠ [] ∧ name ≠ ['.']).map .named

theorem components_of_absolute {path : List Char} (habsolute : path.head? = some '/') :
    components path = .rootDir :: names path := by
  rw [components, lead, if_pos habsolute]
  rfl

@[simp] theorem names_nil : names [] = [] := rfl

/-- A separator ends a name. -/
theorem names_append_separator (front back : List Char) :
    names (front ++ '/' :: back) = names front ++ names back := by
  rw [names, List.splitOn_append_cons_self, List.filter_append, List.map_append]
  rfl

theorem names_of_single {name : List Char} (hslash : '/' ∉ name) (hne : name ≠ [])
    (hdot : name ≠ ['.']) : names name = [.named name] := by
  rw [names, List.splitOn_eq_singleton hslash, List.filter_cons_of_pos]
  · rfl
  · exact decide_eq_true ⟨hne, hdot⟩

/-- `PathBuf::join`: an absolute name replaces the base, and the separator is only
written where it is missing. -/
def join (base name : String) : String :=
  if name.toList.head? = some '/' then name
  else if base = "" ∨ base.toList.getLast? = some '/' then base ++ name
  else base ++ "/" ++ name

theorem names_join {base name : String} (hname : name.toList.head? ≠ some '/') :
    names (join base name).toList = names base.toList ++ names name.toList := by
  rw [join, if_neg hname]
  split
  · rename_i hends
    rw [String.toList_append]
    rcases hends with rfl | hends
    · rfl
    · obtain ⟨front, hfront⟩ := List.getLast?_eq_some_iff.mp hends
      rw [hfront, List.append_assoc, List.singleton_append, names_append_separator,
        names_append_separator, names_nil, List.append_nil]
  · rw [String.toList_append, String.toList_append, List.append_assoc]
    exact names_append_separator base.toList name.toList

theorem head?_join {base name : String} (hbase : base.toList.head? = some '/')
    (hname : name.toList.head? ≠ some '/') :
    (join base name).toList.head? = some '/' := by
  rw [join, if_neg hname]
  split <;> simp [List.head?_append, hbase]

/-- Under an absolute base, a path that is joined and one that is written out are the
same if and only if the names behind the base are. -/
theorem same_join_iff {base name name' : String} (hbase : base.toList.head? = some '/')
    (hname : name.toList.head? ≠ some '/') :
    Same (join base name) (base ++ ("/" ++ name')) ↔
      names name.toList = names name'.toList := by
  have hwritten : (base ++ ("/" ++ name')).toList = base.toList ++ '/' :: name'.toList := by
    simp
  rw [Same, components_of_absolute (head?_join hbase hname), hwritten,
    components_of_absolute (by simp [List.head?_append, hbase]), names_join hname,
    names_append_separator, List.cons.injEq, List.append_cancel_left_eq]
  simp

/-- Two names joined to one absolute base. -/
theorem same_joined_iff {base name name' : String} (hbase : base.toList.head? = some '/')
    (hname : name.toList.head? ≠ some '/') (hname' : name'.toList.head? ≠ some '/') :
    Same (join base name) (join base name') ↔ names name.toList = names name'.toList := by
  rw [Same, components_of_absolute (head?_join hbase hname),
    components_of_absolute (head?_join hbase hname'), names_join hname, names_join hname',
    List.cons.injEq, List.append_cancel_left_eq]
  simp

end UnixPath
