import AgentOperator.Manifest.Path
import Mathlib.Data.List.Basic

/-!
# Clean paths

A clean absolute path consists of segments with slashes in front of them, each of which is a name:
not empty, not one dot, not two dots. The place that any fragments lead to has such segments
(`is_place_walk`), and a fragment that is a name leads to the child of that name
(`walk_of_is_segment`). A path lies below another one if that one and a slash are a prefix of it.
For clean paths this is so if and only if the segments of the one extend those of the other
(`is_below_render_iff`), as those of fragments do that never climb higher than they went down
(`exists_walk_eq`).
-/

namespace AgentOperator.Text

/-- The pieces of a text are those of splitting it at the separators. -/
theorem pieces_eq_split_on (separator : Char) (cs : List Char) :
    pieces separator cs = cs.splitOn separator := by
  induction cs with
  | nil => rfl
  | cons c cs ih =>
      rw [pieces, ih, List.splitOn_cons_eq_if_modifyHead]
      simp only [beq_iff_eq]
      split
      · rfl
      · cases hpieces : cs.splitOn separator with
        | nil => exact absurd hpieces (List.splitOn_ne_nil _ _)
        | cons piece rest => rfl

/-- A piece of a text has no separator in it. -/
theorem not_mem_of_mem_pieces {separator : Char} {cs piece : List Char}
    (h : piece ∈ pieces separator cs) : separator ∉ piece := by
  induction cs generalizing piece with
  | nil =>
      obtain rfl := List.mem_singleton.1 h
      exact List.not_mem_nil
  | cons c cs ih =>
      unfold pieces at h
      split at h
      · rcases List.mem_cons.1 h with rfl | h
        · exact List.not_mem_nil
        · exact ih h
      · next hc =>
          split at h
          · obtain rfl := List.mem_singleton.1 h
            exact fun hmem => hc (List.mem_singleton.1 hmem).symm
          · next first rest hpieces =>
              rcases List.mem_cons.1 h with rfl | h
              · intro hmem
                rcases List.mem_cons.1 hmem with heq | hmem
                · exact hc heq.symm
                · exact ih (hpieces ▸ List.mem_cons_self) hmem
              · exact ih (hpieces ▸ List.mem_cons_of_mem _ h)

end AgentOperator.Text

namespace AgentOperator.Path

/-- A segment is a name: neither empty nor one dot nor two dots. -/
def IsName (segment : List Char) : Prop :=
  segment ≠ [] ∧ segment ≠ ['.'] ∧ segment ≠ ['.', '.']

instance : DecidablePred IsName := fun _ => inferInstanceAs (Decidable (_ ∧ _))

/-- The segments of clean paths: names without slashes in them. -/
structure IsSegment (segment : List Char) : Prop where
  name : IsName segment
  slashless : '/' ∉ segment

/-- All segments of a place are those of clean paths. -/
def IsPlace (place : List (List Char)) : Prop := ∀ segment ∈ place, IsSegment segment

/-- A text is the clean absolute path of some segments. -/
def IsCleanPath (path : String) (segments : List (List Char)) : Prop :=
  IsPlace segments ∧ path.toList = '/' :: ['/'].intercalate segments

/-- A path lies below another one. -/
def IsBelow (base path : String) : Prop := (base ++ "/").toList <+: path.toList

instance (base path : String) : Decidable (IsBelow base path) :=
  inferInstanceAs (Decidable (_ <+: _))

/-- A path is another one or lies below it. -/
def IsWithin (base path : String) : Prop := path = base ∨ IsBelow base path

/-- In no prefix of the segments more of them lead up than down. -/
def NeverClimbs (segments : List (List Char)) : Prop :=
  ∀ front, front <+: segments → front.count ['.', '.'] ≤ front.countP (IsName ·)

variable {place base : List (List Char)} {segment fragment : List Char}

/-- A name leads down. -/
theorem step_of_is_name (h : IsName segment) : step place segment = segment :: place := by
  rw [step, if_neg (by simp [h.1, h.2.1]), if_neg h.2.2]

/-- Two dots lead up. -/
theorem step_dots : step place ['.', '.'] = place.tail := rfl

/-- A segment that is neither a name nor two dots is skipped. -/
theorem step_of_not_is_name (h : ¬ IsName segment) (hdots : segment ≠ ['.', '.']) :
    step place segment = place := by
  refine if_pos ?_
  rw [Bool.or_eq_true, decide_eq_true_eq, decide_eq_true_eq]
  by_contra hother
  rw [not_or] at hother
  exact h ⟨hother.1, hother.2, hdots⟩

/-- A step preserves that the segments of a place are those of clean paths. -/
theorem is_place_step (hplace : IsPlace place) (hsegment : '/' ∉ segment) :
    IsPlace (step place segment) := by
  by_cases hname : IsName segment
  · rw [step_of_is_name hname]
    exact List.forall_mem_cons.2 ⟨⟨hname, hsegment⟩, hplace⟩
  · by_cases hdots : segment = ['.', '.']
    · rw [hdots, step_dots]
      exact fun other hother => hplace other (List.mem_of_mem_tail hother)
    · rwa [step_of_not_is_name hname hdots]

/-- Steps preserve that the segments of a place are those of clean paths. -/
theorem is_place_foldl_step {segments : List (List Char)} (hplace : IsPlace place)
    (hsegments : ∀ segment ∈ segments, '/' ∉ segment) : IsPlace (segments.foldl step place) := by
  induction segments generalizing place with
  | nil => exact hplace
  | cons segment rest ih =>
      rw [List.forall_mem_cons] at hsegments
      exact ih (is_place_step hplace hsegments.1) hsegments.2

/-- A fragment preserves that the segments of a place are those of clean paths. -/
theorem is_place_walk (hplace : IsPlace place) : IsPlace (walk place fragment) :=
  is_place_foldl_step hplace fun _ => Text.not_mem_of_mem_pieces

/-- Segments that never climb higher than they have gone down below a place stay below it; `inner`
is the current depth. -/
theorem exists_foldl_step_eq {segments : List (List Char)} {inner : List (List Char)}
    (h : ∀ front, front <+: segments →
      front.count ['.', '.'] ≤ front.countP (IsName ·) + inner.length) :
    ∃ rest, segments.foldl step (inner ++ base) = rest ++ base := by
  induction segments generalizing inner with
  | nil => exact ⟨inner, rfl⟩
  | cons segment segments ih =>
      -- a prefix of the remaining segments is one of all segments without the first
      have hfront (front : List (List Char)) (hbegins : front <+: segments) :=
        h (segment :: front) (List.cons_prefix_cons.2 ⟨rfl, hbegins⟩)
      simp only [List.count_cons, List.countP_cons] at hfront
      rw [List.foldl_cons]
      by_cases hname : IsName segment
      · rw [step_of_is_name hname, ← List.cons_append]
        refine ih fun front hbegins => ?_
        have hcount := hfront front hbegins
        simp only [hname, hname.2.2, beq_iff_eq, decide_true, if_true, if_false] at hcount
        rw [List.length_cons]
        omega
      · by_cases hdots : segment = ['.', '.']
        · subst hdots
          rw [step_dots]
          cases inner with
          | nil => exact absurd (h [['.', '.']] (by simp)) (by decide)
          | cons last inner =>
              refine ih fun front hbegins => ?_
              have hcount := hfront front hbegins
              have hdown : ¬ IsName ['.', '.'] := fun hname => hname.2.2 rfl
              simp only [hdown, List.length_cons, beq_self_eq_true, decide_false, if_true,
                Bool.false_eq_true, if_false] at hcount
              omega
        · rw [step_of_not_is_name hname hdots]
          refine ih fun front hbegins => ?_
          have hcount := hfront front hbegins
          simpa [hname, hdots] using hcount

/-- A fragment that never climbs leads from a place to the same place or below it. -/
theorem exists_walk_eq (h : NeverClimbs (Text.pieces '/' fragment)) :
    ∃ inner, walk base fragment = inner ++ base := by
  have hstays : ∃ inner, (Text.pieces '/' fragment).foldl step ([] ++ base) = inner ++ base :=
    exists_foldl_step_eq h
  exact hstays

/-- A fragment that is a segment leads to the child of that name. -/
theorem walk_of_is_segment (h : IsSegment segment) : walk place segment = segment :: place := by
  rw [walk, Text.pieces_eq_split_on, List.splitOn_eq_singleton h.slashless]
  exact step_of_is_name h.name

/-- The text of a place is a clean path. -/
theorem is_clean_path_render (h : IsPlace place) :
    IsCleanPath (String.ofList (render place)) place.reverse :=
  ⟨fun segment hsegment => h segment (List.mem_reverse.1 hsegment), String.toList_ofList⟩

/-- The pieces between the slashes of a path are the segments of its place. -/
theorem segments_render (h : IsPlace place) :
    ((render place).splitOn '/').filter (· ≠ []) = place.reverse := by
  by_cases hroot : place = []
  · rw [hroot]
    decide
  · rw [render, List.splitOn_cons_eq_if_modifyHead, if_pos (beq_self_eq_true _),
      List.splitOn_intercalate]
    · rw [List.filter_cons_of_neg (by simp), List.filter_eq_self]
      intro segment hsegment
      exact decide_eq_true (h segment (List.mem_reverse.1 hsegment)).name.1
    · exact fun segment hsegment => (h segment (List.mem_reverse.1 hsegment)).slashless
    · exact fun hnil => hroot (List.reverse_eq_nil_iff.1 hnil)

/-- Different places have different paths. -/
theorem render_inj (hplace : IsPlace place) (hbase : IsPlace base) :
    render place = render base ↔ place = base := by
  constructor
  · intro heq
    rw [← List.reverse_inj, ← segments_render hplace, heq, segments_render hbase]
  · exact congrArg render

/-- Two intercalated lists are one, with one more separator between them. -/
theorem intercalate_append {separator : List Char} {front back : List (List Char)}
    (hfront : front ≠ []) (hback : back ≠ []) :
    separator.intercalate (front ++ back) =
      separator.intercalate front ++ separator ++ separator.intercalate back := by
  induction front with
  | nil => exact absurd rfl hfront
  | cons item front ih =>
      by_cases hnil : front = []
      · rw [hnil, List.singleton_append, List.intercalate_cons_of_ne_nil hback,
          List.intercalate_singleton]
      · rw [List.cons_append, List.intercalate_cons_of_ne_nil hnil,
          List.intercalate_cons_of_ne_nil (by simp [hnil]), ih hnil]
        simp only [List.append_assoc]

/-- A clean path lies below another one, which is not the root, if and only if its segments properly
extend those of the other. -/
theorem is_below_render_iff (hplace : IsPlace place) (hbase : IsPlace base) (hne : base ≠ []) :
    IsBelow (String.ofList (render base)) (String.ofList (render place)) ↔
      ∃ inner, inner ≠ [] ∧ place = inner ++ base := by
  have htext : (String.ofList (render base) ++ "/").toList = render base ++ ['/'] := by
    rw [String.toList_append, String.toList_ofList]
    rfl
  rw [IsBelow, htext, String.toList_ofList]
  constructor
  · rintro ⟨rest, hrest⟩
    rw [List.append_assoc, List.singleton_append] at hrest
    have hplaceEq : place = ((rest.splitOn '/').filter (· ≠ [])).reverse ++ base := by
      rw [← List.reverse_inj, ← segments_render hplace, ← hrest, List.splitOn_append_cons_self,
        List.filter_append, segments_render hbase, List.reverse_append, List.reverse_reverse]
    refine ⟨_, fun hnil => ?_, hplaceEq⟩
    -- otherwise the two places would be the same, although one path is longer than the other
    rw [hnil, List.nil_append] at hplaceEq
    rw [hplaceEq, List.append_right_eq_self] at hrest
    cases hrest
  · rintro ⟨inner, hinner, rfl⟩
    refine ⟨['/'].intercalate inner.reverse, ?_⟩
    rw [render, render, List.reverse_append, intercalate_append (by simpa using hne)
      (by simpa using hinner)]
    simp only [List.cons_append, List.append_assoc]

/-- A clean path is another one, which is not the root, or lies below it if and only if its segments
extend those of the other. -/
theorem is_within_render_iff (hplace : IsPlace place) (hbase : IsPlace base) (hne : base ≠ []) :
    IsWithin (String.ofList (render base)) (String.ofList (render place)) ↔
      ∃ inner, place = inner ++ base := by
  rw [IsWithin, String.ofList_inj, render_inj hplace hbase, is_below_render_iff hplace hbase hne]
  constructor
  · rintro (rfl | ⟨inner, -, hinner⟩)
    · exact ⟨[], rfl⟩
    · exact ⟨inner, hinner⟩
  · rintro ⟨inner, hinner⟩
    by_cases hnil : inner = []
    · rw [hnil, List.nil_append] at hinner
      exact .inl hinner
    · exact .inr ⟨inner, hnil, hinner⟩

end AgentOperator.Path
