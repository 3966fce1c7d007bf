import Reactor.Path

/-!
What joining does to the components of a path. Whatever is joined to a directory stands behind
the components of the directory; a plain name is one component more.
-/

namespace Reactor.Path

theorem pieces_ne_nil (chars : List Char) : pieces chars ≠ [] := by
  induction chars with
  | nil => simp [pieces]
  | cons char rest ih =>
      unfold pieces
      split
      · simp
      · split <;> simp

theorem pieces_append_separator (front back : List Char) :
    pieces (front ++ '/' :: back) = pieces front ++ pieces back := by
  induction front with
  | nil =>
      obtain ⟨piece, others, split⟩ := List.exists_cons_of_ne_nil (pieces_ne_nil back)
      simp [pieces, split]
  | cons char front ih =>
      obtain ⟨piece, others, split⟩ := List.exists_cons_of_ne_nil (pieces_ne_nil front)
      rw [List.cons_append, pieces, pieces, ih, split]
      by_cases same : char = '/' <;> simp [same]

theorem pieces_whole {chars : List Char} (whole : '/' ∉ chars) : pieces chars = [chars] := by
  induction chars with
  | nil => rfl
  | cons char rest ih =>
      have apart : char ≠ '/' := fun same => whole (same ▸ List.mem_cons_self)
      rw [pieces, ih fun later => whole (List.mem_cons_of_mem char later)]
      simp [apart]

theorem head?_pieces_append {front : List Char} (back : List Char) :
    (pieces (front ++ '/' :: back)).head? = (pieces front).head? := by
  obtain ⟨piece, others, split⟩ := List.exists_cons_of_ne_nil (pieces_ne_nil front)
  simp [pieces_append_separator, split]

/-- The text of a path is that of the directory in front, a separator where one is missing, and
what is joined to it. -/
theorem join_toList {base tail : String} (relative : isAbsolute tail = false) :
    (join base tail).toList = base.toList ++ tail.toList ∧
        (base.toList = [] ∨ ∃ front, base.toList = front ++ ['/'])
      ∨ (join base tail).toList = base.toList ++ '/' :: tail.toList ∧ base.toList ≠ [] := by
  unfold join
  rw [relative]
  by_cases bare : base.toList = []
  · left
    simp [bare]
  by_cases closed : base.toList.getLast? = some '/'
  · left
    have ended := List.getLast?_eq_some_iff.mp closed
    simp [closed, ended]
  · right
    have opened : (base.toList.isEmpty || base.toList.getLast? == some '/') = false := by
      simp [List.isEmpty_eq_false_iff.mpr bare, closed]
    simp [opened, bare]

theorem join_extends {tail : String} (base : String) (relative : isAbsolute tail = false) :
    ∃ rest, (join base tail).toList = base.toList ++ rest := by
  rcases @join_toList base tail relative with ⟨text, _⟩ | ⟨text, _⟩
  · exact ⟨_, text⟩
  · exact ⟨_, text⟩

private def opening (chars : List Char) : List Component :=
  if chars.head? == some '/' then [.root]
  else if (pieces chars).head? == some ['.'] then [.current]
  else []

private theorem components_eq (path : String) :
    components path = opening path.toList ++ (pieces path.toList).filterMap component? := rfl

private theorem opening_append {front : List Char} (named : front ≠ []) (back : List Char) :
    opening (front ++ '/' :: back) = opening front := by
  obtain ⟨char, rest, split⟩ := List.exists_cons_of_ne_nil named
  unfold opening
  rw [head?_pieces_append, split]
  rfl

theorem components_join {base tail : String} (relative : isAbsolute tail = false)
    (named : base ≠ "") :
    components (join base tail)
      = components base ++ (pieces tail.toList).filterMap component? := by
  have inhabited : base.toList ≠ [] := fun bare => named (String.toList_eq_nil_iff.mp bare)
  rw [components_eq, components_eq]
  rcases join_toList relative with ⟨text, bare | ⟨front, closed⟩⟩ | ⟨text, _⟩
  · contradiction
  · rw [text, closed, List.append_assoc, List.singleton_append, pieces_append_separator,
      pieces_append_separator]
    have same : opening (front ++ '/' :: tail.toList) = opening (front ++ '/' :: []) := by
      cases front with
      | nil => simp [opening]
      | cons char rest => rw [opening_append (by simp), opening_append (by simp)]
    simp [same, pieces, component?]
  · rw [text, opening_append inhabited, pieces_append_separator, List.filterMap_append,
      List.append_assoc]

/-- A text that names an entry of a directory. -/
structure IsName (text : String) : Prop where
  inhabited : text ≠ ""
  notDot : text ≠ "."
  notDots : text ≠ ".."
  whole : '/' ∉ text.toList

theorem IsName.component? {text : String} (plain : IsName text) :
    Path.component? text.toList = some (.name text) := by
  unfold Path.component?
  split
  · next bare => exact absurd (String.toList_eq_nil_iff.mp bare) plain.inhabited
  · next dot => exact absurd (String.toList_inj.mp (dot.trans (by rfl))) plain.notDot
  · next dots => exact absurd (String.toList_inj.mp (dots.trans (by rfl))) plain.notDots
  · rw [String.ofList_toList]

theorem IsName.relative {text : String} (plain : IsName text) : isAbsolute text = false := by
  unfold isAbsolute
  cases chars : text.toList with
  | nil => rfl
  | cons char rest =>
      have apart : char ≠ '/' := fun same => plain.whole (by simp [chars, same])
      simp [apart]

theorem components_join_name {base name : String} (plain : IsName name) :
    components (join base name) = components base ++ [.name name] := by
  by_cases named : base = ""
  · subst named
    have dotless : name.toList ≠ ['.'] := fun dot =>
      plain.notDot (String.toList_inj.mp (dot.trans (by rfl)))
    have joined : join "" name = name := by
      simp [join, plain.relative]
    have bare : components "" = [] := rfl
    have relative : (name.toList.head? == some '/') = false := plain.relative
    rw [joined, bare, components_eq]
    simp [opening, relative, pieces_whole plain.whole, dotless, plain.component?]
  · rw [components_join plain.relative named, pieces_whole plain.whole]
    simp [plain.component?]

/-- What is joined to a directory never starts again from the root. -/
theorem root_not_mem_components (split : List (List Char)) :
    Component.root ∉ split.filterMap component? := by
  intro held
  obtain ⟨piece, _, stands⟩ := List.mem_filterMap.mp held
  unfold component? at stands
  split at stands <;> cases stands

end Reactor.Path
