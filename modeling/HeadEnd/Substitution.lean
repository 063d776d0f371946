import HeadEnd.ConfigFile
import HeadEnd.Lib.Template

/-! The environment in the text of the configuration file. The holes are those of the text
as it was read, but each variable is then replaced in what the earlier ones have left. A
value that brings a placeholder with it, or completes one with the text around it, is
expanded once more if that variable's turn is still to come. -/
namespace HeadEnd
open Text

/-- The body of the loop in `substituteEnvVars`. -/
def substituteEnvVar (env : Environment) (result : String) (name : List Char) :
    Except ConfigError String :=
  match env (String.ofList name) with
  | none => .error (.envVarNotFound (String.ofList name))
  | some value =>
    .ok (String.ofList (replaceAll (placeholder name) value.toList 0 result.toList))

def Environment.values (env : Environment) (name : List Char) : Option (List Char) :=
  (env (String.ofList name)).map String.toList

/-- All holes of the text filled at once. -/
def singlePass (env : Environment) (input : String) : String :=
  String.ofList (fill env.values (pieces .text input.toList))

/-- After the turns of these names their holes are filled, and all else is as it was. -/
def InStep (env : Environment) (input : String) (names : List (List Char)) : Prop :=
  names.foldlM (substituteEnvVar env) input =
    .ok (String.ofList (fill (only names env.values) (pieces .text input.toList)))

/-- When its turn comes after these names, the placeholder of `name` stands in its holes
only; if the value is the placeholder itself, it may stand anywhere. -/
def Undisturbed (env : Environment) (input : String) (names : List (List Char))
    (name : List Char) : Prop :=
  env.values name = some (placeholder name) ∨
    ∀ qs ∈ stretches names name (pieces .text input.toList),
      ¬ placeholder name <:+: fill (only names env.values) qs

instance (env : Environment) (input : String) (names : List (List Char)) (name : List Char) :
    Decidable (Undisturbed env input names name) := inferInstanceAs (Decidable (_ ∨ _))

section
variable {env : Environment} {input : String} {names : List (List Char)} {name : List Char}

theorem substituteEnvVars_eq (env : Environment) (input : String) :
    substituteEnvVars env input =
      (captures .text input.toList).foldlM (substituteEnvVar env) input := rfl

theorem foldlM_substituteEnvVar_unset (h : ∃ name ∈ names, env (String.ofList name) = none)
    (text : String) :
    ∃ name ∈ names, env (String.ofList name) = none ∧
      names.foldlM (substituteEnvVar env) text =
        .error (.envVarNotFound (String.ofList name)) := by
  induction names generalizing text with
  | nil => simp at h
  | cons first names ih =>
    cases hfirst : env (String.ofList first) with
    | none =>
      refine ⟨first, List.mem_cons_self, hfirst, ?_⟩
      rw [List.foldlM_cons, substituteEnvVar, hfirst]
      rfl
    | some value =>
      have hrest : ∃ name ∈ names, env (String.ofList name) = none := by
        obtain ⟨name, hmem, hname⟩ := h
        cases List.mem_cons.mp hmem with
        | inl heq =>
          rw [heq, hfirst] at hname
          cases hname
        | inr hmem => exact ⟨name, hmem, hname⟩
      have hturn : substituteEnvVar env text first = .ok (String.ofList
          (replaceAll (placeholder first) value.toList 0 text.toList)) := by
        rw [substituteEnvVar, hfirst]
      obtain ⟨name, hmem, hname, herror⟩ := ih hrest _
      refine ⟨name, List.mem_cons_of_mem first hmem, hname, ?_⟩
      rw [List.foldlM_cons, bind_of_eq_ok _ hturn]
      exact herror

theorem inStep_nil (env : Environment) (input : String) : InStep env input [] := by
  have hnone : only [] env.values = fun _ => none := by
    funext name
    simp [only]
  rw [InStep, hnone, fill_none_pieces]
  simp [Scan.pending]
  rfl

/-- One turn. -/
theorem InStep.append_iff (h : InStep env input names) (hclosed : '}' ∉ name)
    (hset : env (String.ofList name) ≠ none) :
    InStep env input (names ++ [name]) ↔ Undisturbed env input names name := by
  obtain ⟨value, hvalue⟩ := Option.ne_none_iff_exists'.mp hset
  have hv : env.values name = some value.toList := by
    rw [Environment.values, hvalue, Option.map_some]
  have hturn : (names ++ [name]).foldlM (substituteEnvVar env) input =
      .ok (String.ofList (replaceAll (placeholder name) value.toList 0
        (fill (only names env.values) (pieces .text input.toList)))) := by
    rw [List.foldlM_append, bind_of_eq_ok _ h, List.foldlM_cons, substituteEnvVar, hvalue]
    simp
  rw [InStep, hturn, Except.ok.injEq, String.ofList_inj, replaceAll_fill_iff hclosed hv,
    Undisturbed, hv, Option.some_inj]

theorem inStep_iff_undisturbed
    (hset : ∀ name ∈ captures .text input.toList, env (String.ofList name) ≠ none) :
    (∀ names, names <+: captures .text input.toList → InStep env input names) ↔
      ∀ names name, names ++ [name] <+: captures .text input.toList →
        Undisturbed env input names name := by
  have hturn : ∀ names name, names ++ [name] <+: captures .text input.toList →
      InStep env input names →
        (InStep env input (names ++ [name]) ↔ Undisturbed env input names name) := by
    intro names name hpre h
    have hmem : name ∈ captures .text input.toList := hpre.subset (by simp)
    exact h.append_iff (closed_notMem_of_mem_captures .text trivial hmem) (hset name hmem)
  constructor
  · intro h names name hpre
    exact (hturn names name hpre (h names ((List.prefix_append names [name]).trans hpre))).mp
      (h _ hpre)
  · intro h names hpre
    induction names using List.reverseRecOn with
    | nil => exact inStep_nil env input
    | append_singleton names name ih =>
      have hbefore := ih ((List.prefix_append names [name]).trans hpre)
      exact (hturn names name hpre hbefore).mpr (h names name hpre)

theorem substituteEnvVars_of_inStep (h : InStep env input (captures .text input.toList)) :
    substituteEnvVars env input = .ok (singlePass env input) := by
  have hall : fill (only (captures .text input.toList) env.values) (pieces .text input.toList) =
      fill env.values (pieces .text input.toList) := by
    refine fill_congr fun name hname => ?_
    rw [only, if_pos (hole_mem_pieces_iff.mp hname)]
  rw [InStep, hall] at h
  rw [substituteEnvVars_eq, h, singlePass]

end

/-- A variable that is not set is reported. If all are set, the loop fills the holes and
nothing else in each of its turns exactly if none of them is disturbed, and then the
result is that of a single pass. -/
theorem substituteEnvVars_of_undisturbed (env : Environment) (input : String) :
    ((∃ name ∈ captures .text input.toList, env (String.ofList name) = none) →
      ∃ name ∈ captures .text input.toList, env (String.ofList name) = none ∧
        substituteEnvVars env input = .error (.envVarNotFound (String.ofList name))) ∧
    ((∀ name ∈ captures .text input.toList, env (String.ofList name) ≠ none) →
      ((∀ names, names <+: captures .text input.toList → InStep env input names) ↔
        ∀ names name, names ++ [name] <+: captures .text input.toList →
          Undisturbed env input names name) ∧
      ((∀ names name, names ++ [name] <+: captures .text input.toList →
          Undisturbed env input names name) →
        substituteEnvVars env input = .ok (singlePass env input))) := by
  rw [substituteEnvVars_eq]
  refine ⟨fun hunset => foldlM_substituteEnvVar_unset hunset input, fun hset => ?_⟩
  rw [← substituteEnvVars_eq]
  refine ⟨inStep_iff_undisturbed hset, fun h => substituteEnvVars_of_inStep ?_⟩
  exact (inStep_iff_undisturbed hset).mpr h _ List.prefix_rfl

-- The text `${A}}${B}${C}` comes out right although the value of `A` was expanded: what `B`
-- made of it was undone by `C`. So the last text alone does not tell whether a turn was
-- disturbed.
example :
    let env : Environment := fun name =>
      if name = "A" then some "$\x7bB\x7d" else if name = "B" then some "$\x7bC"
      else if name = "C" then some "$\x7bB\x7d\x7d" else none
    let input := "$\x7bA\x7d\x7d$\x7bB\x7d$\x7bC\x7d"
    substituteEnvVars env input = .ok (singlePass env input) ∧
      ¬ Undisturbed env input [['A']] ['B'] := by
  decide

/-- `A` is this value, `B` is `x`. -/
def sampleEnv (value : String) : Environment := fun name =>
  if name = "A" then some value else if name = "B" then some "x" else none

def sampleInput : String := "$\x7bA\x7d$\x7bB\x7d"

/-- With a plain value the condition holds, and both variables are filled in. -/
theorem substituteEnvVars_plain :
    (∀ names name, names ++ [name] <+: captures .text sampleInput.toList →
      Undisturbed (sampleEnv "y") sampleInput names name) ∧
    substituteEnvVars (sampleEnv "y") sampleInput = .ok "yx" := by
  have hcaptures : captures .text sampleInput.toList = [['A'], ['B']] := by decide
  have hset : ∀ name ∈ captures .text sampleInput.toList,
      sampleEnv "y" (String.ofList name) ≠ none := by
    decide
  have hturns : ∀ names name, names ++ [name] <+: captures .text sampleInput.toList →
      Undisturbed (sampleEnv "y") sampleInput names name := by
    intro names name hpre
    rw [hcaptures] at hpre
    cases names with
    | nil =>
      obtain ⟨hname, -⟩ := List.cons_prefix_cons.mp hpre
      rw [hname]
      decide
    | cons first names =>
      obtain ⟨hfirst, hrest⟩ := List.cons_prefix_cons.mp hpre
      cases names with
      | nil =>
        obtain ⟨hname, -⟩ := List.cons_prefix_cons.mp hrest
        rw [hfirst, hname]
        decide
      | cons second names =>
        obtain ⟨-, hnone⟩ := List.cons_prefix_cons.mp hrest
        simp at hnone
  refine ⟨hturns, ?_⟩
  exact ((substituteEnvVars_of_undisturbed _ _).2 hset).2 hturns

/-- If `A` is `${B}`, that is expanded again: `B` has its turn after `A`. -/
theorem value_expanded_again :
    ¬ ∀ (env : Environment) (input : String),
      ((∃ name ∈ captures .text input.toList, env (String.ofList name) = none) →
        ∃ name, substituteEnvVars env input = .error (.envVarNotFound name)) ∧
      ((∀ name ∈ captures .text input.toList, env (String.ofList name) ≠ none) →
        substituteEnvVars env input = .ok (singlePass env input)) := by
  intro h
  have hset : ∀ name ∈ captures .text sampleInput.toList,
      sampleEnv "$\x7bB\x7d" (String.ofList name) ≠ none := by
    decide
  have hresult : substituteEnvVars (sampleEnv "$\x7bB\x7d") sampleInput = .ok "xx" := by decide
  have hpass : singlePass (sampleEnv "$\x7bB\x7d") sampleInput = "$\x7bB\x7dx" := by decide
  have heq := (h _ _).2 hset
  rw [hresult, hpass] at heq
  exact absurd heq (by decide)

end HeadEnd
