import AgentOperator.Proofs.Path.Clean

/-!
# Paths as normal forms

Joined fragments are the path of the place that their segments lead to one after the other, which
`Leads` defines segment by segment. The path of a place leads to the place again (`walk_render`), so
that a joined path may replace the fragments, alone and in front of others, and slashes between
fragments make no difference (`walk_intercalate`). `join_normal_form` combines this.
-/

namespace AgentOperator.Path

/-- The segments of some fragments: the pieces between the slashes of the first one, then of the
second one, and so on. -/
def segmentsOf (fragments : List String) : List (List Char) :=
  fragments.flatMap fun fragment => fragment.toList.splitOn '/'

/-- Where one segment leads from a place, which is given by the names on the way from the root to
it: an empty segment and one dot stay, two dots lead to the parent and at the root stay there, and a
name leads to the child of that name. -/
inductive Moves : List (List Char) → List Char → List (List Char) → Prop where
  | stay {place : List (List Char)} {segment : List Char} (h : segment = [] ∨ segment = ['.']) :
      Moves place segment place
  | parent (place : List (List Char)) (name : List Char) : Moves (place ++ [name]) ['.', '.'] place
  | root : Moves [] ['.', '.'] []
  | down {place : List (List Char)} {segment : List Char} (h : IsName segment) :
      Moves place segment (place ++ [segment])

/-- Where some segments lead one after the other. -/
inductive Leads : List (List Char) → List (List Char) → List (List Char) → Prop where
  | here (place : List (List Char)) : Leads place [] place
  | next {place between last : List (List Char)} {segment : List Char}
      {segments : List (List Char)} (hmove : Moves place segment between)
      (hrest : Leads between segments last) : Leads place (segment :: segments) last

variable {place last : List (List Char)} {segment : List Char} {segments : List (List Char)}

/-- A segment leads to exactly one place. -/
theorem moves_iff : Moves place.reverse segment last ↔ last = (step place segment).reverse := by
  constructor
  · intro h
    generalize hplace : place.reverse = start at h
    cases h with
    | stay h =>
        rw [step_of_not_is_name (fun hname => h.elim hname.1 hname.2.1), hplace]
        rintro rfl
        rcases h with h | h <;> cases h
    | parent =>
        obtain rfl := List.reverse_eq_iff.1 hplace
        simp [step_dots]
    | root =>
        obtain rfl := List.reverse_eq_nil_iff.1 hplace
        rfl
    | down h => rw [step_of_is_name h, List.reverse_cons, hplace]
  · rintro rfl
    by_cases hname : IsName segment
    · rw [step_of_is_name hname, List.reverse_cons]
      exact .down hname
    · by_cases hdots : segment = ['.', '.']
      · subst hdots
        rw [step_dots]
        cases place with
        | nil => exact .root
        | cons name place =>
            rw [List.reverse_cons]
            exact .parent _ name
      · rw [step_of_not_is_name hname hdots]
        refine .stay ?_
        by_contra hother
        rw [not_or] at hother
        exact hname ⟨hother.1, hother.2, hdots⟩

/-- Segments lead to the place that the steps along them compute, and to no other one. -/
theorem leads_iff :
    Leads place.reverse segments last ↔ last = (segments.foldl step place).reverse := by
  induction segments generalizing place with
  | nil =>
      constructor
      · intro h
        cases h
        rfl
      · rintro rfl
        exact .here _
  | cons segment segments ih =>
      rw [List.foldl_cons, ← ih]
      constructor
      · intro h
        cases h with
        | next hmove hrest =>
            obtain rfl := moves_iff.1 hmove
            exact hrest
      · exact .next (moves_iff.2 rfl)

/-- Fragments lead to the place that their segments lead to. -/
theorem foldl_walk (fragments : List String) (place : List (List Char)) :
    (fragments.map String.toList).foldl walk place = (segmentsOf fragments).foldl step place := by
  induction fragments generalizing place with
  | nil => rfl
  | cons fragment fragments ih =>
      rw [List.map_cons, List.foldl_cons, ih, walk, Text.pieces_eq_split_on, segmentsOf,
        segmentsOf, List.flatMap_cons, List.foldl_append]

/-- Empty segments may be dropped. -/
theorem foldl_step_filter (segments place : List (List Char)) :
    (segments.filter (· ≠ [])).foldl step place = segments.foldl step place := by
  induction segments generalizing place with
  | nil => rfl
  | cons segment segments ih =>
      by_cases hempty : segment = []
      · subst hempty
        exact ih place
      · rw [List.filter_cons_of_pos (by simpa using hempty), List.foldl_cons, List.foldl_cons, ih]

/-- Names lead down one after another. -/
theorem foldl_step_names (h : ∀ segment ∈ segments, IsName segment) :
    segments.foldl step place = segments.reverse ++ place := by
  induction segments generalizing place with
  | nil => rfl
  | cons segment segments ih =>
      rw [List.forall_mem_cons] at h
      rw [List.foldl_cons, step_of_is_name h.1, ih h.2, List.reverse_cons, List.append_assoc,
        List.singleton_append]

/-- The path of a place leads to it from the root. -/
theorem walk_render (h : IsPlace place) : walk [] (render place) = place := by
  rw [walk, Text.pieces_eq_split_on, ← foldl_step_filter, segments_render h, foldl_step_names,
    List.reverse_reverse, List.append_nil]
  exact fun segment hsegment => (h segment (List.mem_reverse.1 hsegment)).name

/-- Fragments with slashes between them lead to the same place. -/
theorem walk_intercalate (fragments : List String) (place : List (List Char)) :
    walk place ("/".intercalate fragments).toList = (segmentsOf fragments).foldl step place := by
  induction fragments generalizing place with
  | nil => rfl
  | cons fragment fragments ih =>
      rw [segmentsOf, List.flatMap_cons, List.foldl_append]
      by_cases hlast : fragments = []
      · subst hlast
        rw [String.intercalate_singleton, walk, Text.pieces_eq_split_on]
        rfl
      · have htext : ("/".intercalate (fragment :: fragments)).toList =
            fragment.toList ++ '/' :: ("/".intercalate fragments).toList := by
          rw [String.intercalate_cons_of_ne_nil hlast, String.toList_append, String.toList_append,
            List.append_assoc]
          rfl
        rw [htext, walk, Text.pieces_eq_split_on, List.splitOn_append_cons_self, List.foldl_append,
          ← Text.pieces_eq_split_on, ← Text.pieces_eq_split_on]
        exact ih _

/-- The place that some fragments lead to, the last name first. -/
def placeOf (fragments : List String) : List (List Char) :=
  (fragments.map String.toList).foldl walk []

/-- The segments of the place of some fragments are those of clean paths. -/
theorem is_place_place_of (fragments : List String) : IsPlace (placeOf fragments) := by
  rw [placeOf, foldl_walk]
  refine is_place_foldl_step (fun _ hnone => absurd hnone List.not_mem_nil) ?_
  intro segment hsegment
  obtain ⟨fragment, -, hpiece⟩ := List.mem_flatMap.1 hsegment
  rw [← Text.pieces_eq_split_on] at hpiece
  exact Text.not_mem_of_mem_pieces hpiece

/-- A joined path may replace its fragments in front of others. -/
theorem join_append (fragments others : List String) :
    join (fragments ++ others) = join (join fragments :: others) := by
  have hwalk : walk [] (join fragments).toList = placeOf fragments := by
    rw [join, String.toList_ofList]
    exact walk_render (is_place_place_of fragments)
  rw [join, join, List.map_append, List.foldl_append, List.map_cons, List.foldl_cons, hwalk,
    placeOf]

/-- Joined paths are normal forms. The result is a clean absolute path, whose segments are the names
on the way from the root to the one place that the segments of the fragments lead to. Joining is
idempotent, alone and in front of other fragments, and the result depends only on the text of the
fragments with slashes between them. -/
theorem join_normal_form (fragments others : List String) :
    (∃ place, IsCleanPath (join fragments) place ∧
        ∀ last, Leads [] (segmentsOf fragments) last ↔ last = place) ∧
      join [join fragments] = join fragments ∧
      join (fragments ++ others) = join (join fragments :: others) ∧
      join fragments = join ["/".intercalate fragments] := by
  refine ⟨⟨(placeOf fragments).reverse, is_clean_path_render (is_place_place_of fragments),
    fun last => ?_⟩, ?_, join_append fragments others, ?_⟩
  · rw [placeOf, foldl_walk]
    show Leads (List.reverse []) _ _ ↔ _
    exact leads_iff
  · rw [← join_append, List.append_nil]
  · rw [join, join, foldl_walk, List.map_singleton, List.foldl_cons, List.foldl_nil,
      walk_intercalate]

/-- Two dots at the root stay there, also where they are spread over fragments. -/
example : join ["a/..", "../b//.", "", "c"] = "/b/c" ∧ join ["..", "/"] = "/" := by decide

end AgentOperator.Path
