import AgentOperator.Manifest.Args
import Mathlib.Data.List.Basic

/-!
# How often an argument sets the configuration

The operator's own flag comes first, and a declared flag of the same key is dropped. But an argument
is parsed as a key and a value at the first equals sign, and a declared key may contain one.
`config_flag_once_iff` counts the arguments that set the configuration: there is one more for each
declared key that begins with the operator's key and an equals sign.
-/

namespace AgentOperator.Args

/-- An argument sets the configuration if it is parsed at the first equals sign. -/
def SetsConfig (argument : String) : Prop := "--config=".toList <+: argument.toList

/-- A key begins with the key of the operator's flag and an equals sign. -/
def ReadsAsConfig (key : String) : Prop := "config=".toList <+: key.toList

instance : DecidablePred SetsConfig := fun argument =>
  inferInstanceAs (Decidable ("--config=".toList <+: argument.toList))

instance : DecidablePred ReadsAsConfig := fun key =>
  inferInstanceAs (Decidable ("config=".toList <+: key.toList))

/-- A text with a separator in it begins with a word and the separator if and only if the part
before the separator is the word or begins with both. -/
theorem prefix_append_cons_iff {α : Type} {sep : α} {word : List α} (hword : sep ∉ word)
    (key value : List α) :
    word ++ [sep] <+: key ++ sep :: value ↔ key = word ∨ word ++ [sep] <+: key := by
  induction word generalizing key with
  | nil =>
      cases key with
      | nil => simp
      | cons c key => simp
  | cons d word ih =>
      rw [List.mem_cons, not_or] at hword
      cases key with
      | nil => simp [Ne.symm hword.1]
      | cons c key =>
          rw [List.cons_append, List.cons_append, List.cons_prefix_cons, List.cons_prefix_cons,
            ih hword.2, List.cons.injEq]
          tauto

/-- A flag sets the configuration if and only if its key is the operator's key or reads as it. -/
theorem sets_config_render_iff (key value : String) :
    SetsConfig (render key value) ↔ key = configFlag ∨ ReadsAsConfig key := by
  have hrender : (render key value).toList = '-' :: '-' :: (key.toList ++ '=' :: value.toList) := by
    simp [render]
  have hflag : "--config=".toList = '-' :: '-' :: (configFlag.toList ++ ['=']) := by decide
  have hkey : "config=".toList = configFlag.toList ++ ['='] := by decide
  rw [SetsConfig, ReadsAsConfig, hrender, hflag, hkey, List.cons_prefix_cons, List.cons_prefix_cons,
    prefix_append_cons_iff (by decide), String.toList_inj]
  simp

/-- A flag of another key than the operator's sets the configuration if and only if its key reads as
the operator's key. -/
theorem sets_config_render_and_ne_iff (key value : String) :
    SetsConfig (render key value) ∧ key ≠ configFlag ↔ ReadsAsConfig key := by
  have hown : ReadsAsConfig key → key ≠ configFlag := by
    rintro hreads rfl
    exact absurd hreads (by decide)
  rw [sets_config_render_iff]
  tauto

/-- The number of the declared flags that are passed on and set the configuration is that of the
keys that read as the operator's key. -/
theorem count_sets_config_kept (declared : Dict String) :
    ((kept declared true).map fun flag => render flag.1 flag.2).countP (SetsConfig ·) =
      declared.keys.countP (ReadsAsConfig ·) := by
  rw [List.countP_map, kept, List.countP_filter, Dict.keys, List.countP_map]
  refine List.countP_congr fun flag _ => ?_
  simpa using sets_config_render_and_ne_iff flag.1 flag.2

/-- The operator's own flag. -/
theorem render_config_flag (value : String) : render configFlag value = "--config=" ++ value := by
  rw [render]
  rfl

/-- The operator's flag comes first. The number of further arguments that set the configuration is
that of the declared keys that read as the operator's flag, so that it is the only one if and only
if there is no such key. -/
theorem config_flag_once_iff (entry : String) (declared : Dict String) :
    ∃ rest, assemble entry declared true = ("--config=/conf/" ++ entry) :: rest ∧
      SetsConfig ("--config=/conf/" ++ entry) ∧
      (assemble entry declared true).countP (SetsConfig ·) =
        1 + declared.keys.countP (ReadsAsConfig ·) ∧
      ((∀ argument ∈ rest, ¬ SetsConfig argument) ↔
        ∀ key ∈ declared.keys, ¬ ReadsAsConfig key) := by
  have hown : render configFlag (configDir ++ "/" ++ entry) = "--config=/conf/" ++ entry := by
    rw [render_config_flag, ← String.append_assoc]
    rfl
  have hsets : SetsConfig ("--config=/conf/" ++ entry) :=
    hown ▸ (sets_config_render_iff configFlag _).2 (.inl rfl)
  have hargs : assemble entry declared true = ("--config=/conf/" ++ entry) ::
      (kept declared true).map fun flag => render flag.1 flag.2 := by
    rw [← hown]
    rfl
  have hrest := count_sets_config_kept declared
  refine ⟨_, hargs, hsets, ?_, ?_⟩
  · rw [hargs, List.countP_cons, hrest, if_pos (decide_eq_true hsets), Nat.add_comm]
  · have hnone := congrArg (· = 0) hrest
    simpa only [List.countP_eq_zero, decide_eq_true_eq, eq_iff_iff] using hnone

/-- The configuration is set twice if a declared key has a file name behind the operator's key and
an equals sign. -/
theorem config_flag_twice :
    let args := assemble "cwagentconfig.json" (.ofList [("config=/tmp/other.json", "true")]) true
    args = ["--config=/conf/cwagentconfig.json", "--config=/tmp/other.json=true"] ∧
      args.countP (SetsConfig ·) = 2 := by
  decide +kernel

end AgentOperator.Args
