import AgentOperator.Manifest.Container
import AgentOperator.Proofs.Entries.Last
import AgentOperator.Proofs.Settings.Variables

/-!
# The environment of the agent

Of several variables of one name the last one is effective (`effective?`). The operator appends its
own variables to those that the resource declares: the name of the pod, and each proxy setting in
two spellings. So the variables that the operator prescribes are effective (`Prescribes`), however
often and in whatever spelling the resource declares the same names, and for every other name the
effective variable is the same as among the declared ones alone (`container_environment`).
-/

namespace AgentOperator.Environment

open Kubernetes

/-- The variable of a name that is effective in a container: the last one. -/
def effective? (env : List EnvVar) (name : String) : Option EnvVar :=
  env.reverse.find? fun entry => entry.name = name

/-- The proxy variables of the operator, each with a spelling under which agents get it. -/
def proxySpellings : List (String × String) :=
  [("HTTP_PROXY", "HTTP_PROXY"), ("HTTP_PROXY", "http_proxy"),
    ("HTTPS_PROXY", "HTTPS_PROXY"), ("HTTPS_PROXY", "https_proxy"),
    ("NO_PROXY", "NO_PROXY"), ("NO_PROXY", "no_proxy")]

/-- What an operator in a process with some variables prescribes to all agents: the name of the pod,
and each proxy variable that is set to a text, in each of its spellings. -/
inductive Prescribes (process : ProcessVariables) : EnvVar → Prop where
  | podName : Prescribes process
      { name := "POD_NAME"
        valueFrom := some { fieldRef := some { fieldPath := "metadata.name" } } }
  | proxy {proxy spelling value : String} (hspelling : (proxy, spelling) ∈ proxySpellings)
      (hset : process.Holds proxy value) :
      Prescribes process { name := spelling, value := some value }

section Effective

variable {env : List EnvVar} {name : String} {entry : EnvVar}

/-- The effective variable of a name is the last one of that name. -/
theorem effective?_eq_some_iff :
    effective? env name = some entry ↔ IsLast (fun entry => entry.name = name) env entry :=
  find?_reverse_eq_some_iff

/-- There is no effective variable of a name if and only if there is none of that name. -/
theorem effective?_eq_none_iff :
    effective? env name = none ↔ ∀ entry ∈ env, entry.name ≠ name := by
  simp only [effective?, List.find?_eq_none, List.mem_reverse, decide_eq_true_eq, ne_eq]

/-- Appended variables take precedence. -/
theorem effective?_append (earlier later : List EnvVar) (name : String) :
    effective? (earlier ++ later) name =
      (effective? later name).or (effective? earlier name) := by
  rw [effective?, List.reverse_append, List.find?_append]
  rfl

/-- A variable is effective if there is no other one of its name. -/
theorem effective?_of_mem (hmem : entry ∈ env)
    (hunique : ∀ other ∈ env, other.name = entry.name → other = entry) :
    effective? env entry.name = some entry := by
  have hexists : ∃ other ∈ env, other.name = entry.name := ⟨entry, hmem, rfl⟩
  obtain ⟨last, hlast⟩ := exists_is_last_iff.2 hexists
  have hentry : last = entry := hunique last hlast.mem hlast.meets
  exact effective?_eq_some_iff.2 (hentry ▸ hlast)

end Effective

/-- The spellings of the proxy variables are their names in capitals and in small letters. -/
theorem proxy_spellings_eq : proxySpellings = proxyNames.flatMap fun proxy =>
    [(proxy, Text.uppercase proxy), (proxy, Text.lowercase proxy)] := by
  decide

variable {process : ProcessVariables} {entry : EnvVar}

/-- The variables that the operator appends are those that it prescribes. -/
theorem mem_added_iff :
    entry ∈ podName :: process.proxySettings.flatMap proxyVariables ↔
      Prescribes process entry := by
  rw [List.mem_cons, List.mem_flatMap]
  constructor
  · rintro (rfl | ⟨⟨proxy, value⟩, hsetting, hentry⟩)
    · exact .podName
    · obtain ⟨hproxy, hset⟩ := ProcessVariables.mem_proxy_settings_iff.1 hsetting
      have hspelled (spelling : String)
          (h : spelling = Text.uppercase proxy ∨ spelling = Text.lowercase proxy) :
          Prescribes process { name := spelling, value := some value } := by
        refine .proxy ?_ hset
        rw [proxy_spellings_eq, List.mem_flatMap]
        exact ⟨proxy, hproxy, by simpa using h⟩
      simp only [proxyVariables, List.mem_cons, List.not_mem_nil, or_false] at hentry
      rcases hentry with rfl | rfl
      · exact hspelled _ (.inl rfl)
      · exact hspelled _ (.inr rfl)
  · intro h
    cases h with
    | podName => exact .inl rfl
    | @proxy proxy spelling value hspelling hset =>
        rw [proxy_spellings_eq, List.mem_flatMap] at hspelling
        obtain ⟨name, hname, hpair⟩ := hspelling
        simp only [List.mem_cons, Prod.mk.injEq, List.not_mem_nil, or_false] at hpair
        refine .inr ⟨(proxy, value), ProcessVariables.mem_proxy_settings_iff.2 ⟨?_, hset⟩, ?_⟩
        · rcases hpair with ⟨rfl, -⟩ | ⟨rfl, -⟩ <;> exact hname
        · rcases hpair with ⟨rfl, rfl⟩ | ⟨rfl, rfl⟩ <;> simp [proxyVariables]

/-- The operator prescribes at most one variable of each name. -/
theorem Prescribes.eq {other : EnvVar} (h : Prescribes process entry)
    (hother : Prescribes process other) (hname : other.name = entry.name) : other = entry := by
  have hpod : ∀ pair ∈ proxySpellings, pair.2 ≠ "POD_NAME" := by decide
  cases h with
  | podName =>
      cases hother with
      | podName => rfl
      | proxy hspelling _ => exact absurd hname (hpod _ hspelling)
  | proxy hspelling hset =>
      cases hother with
      | podName => exact absurd hname.symm (hpod _ hspelling)
      | proxy hspelling' hset' =>
          have hinj : ∀ pair ∈ proxySpellings, ∀ pair' ∈ proxySpellings,
              pair'.2 = pair.2 → pair' = pair := by decide
          cases hinj _ hspelling _ hspelling' hname
          rw [hset.eq hset']

/-- The environment of the agent's container, if the settings of the operator come from the
variables of its process. The declared variables are a prefix of it. The variables that the operator
prescribes are effective, and for every other name the effective variable is that of the declared
ones. -/
theorem container_environment (process : ProcessVariables) (spec : AgentSpec) (addConfig : Bool) :
    ∃ env, (agentContainer (Settings.fromVariables process) spec addConfig).env = some env ∧
      spec.env <+: env ∧
      (∀ entry, Prescribes process entry → effective? env entry.name = some entry) ∧
      ∀ name, (∀ entry, Prescribes process entry → entry.name ≠ name) →
        effective? env name = effective? spec.env name := by
  have hcompose : compose spec.env (Settings.fromVariables process).proxySettings =
      spec.env ++ podName :: process.proxySettings.flatMap proxyVariables := by
    rw [compose, List.append_assoc]
    rfl
  refine ⟨spec.env ++ podName :: process.proxySettings.flatMap proxyVariables, ?_, ?_, ?_, ?_⟩
  · rw [agentContainer, hcompose]
    exact non_empty_eq_some (List.append_ne_nil_of_right_ne_nil _ (List.cons_ne_nil _ _))
  · exact List.prefix_append _ _
  · intro entry hentry
    rw [effective?_append, effective?_of_mem (mem_added_iff.2 hentry) fun other hother =>
      hentry.eq (mem_added_iff.1 hother), Option.some_or]
  · intro name hname
    have hnone := effective?_eq_none_iff.2 fun entry hentry =>
      hname entry (mem_added_iff.1 hentry)
    rw [effective?_append, hnone, Option.none_or]

/-- Process variables of which one proxy variable is set to a text and another one is not. -/
def proxiedVariables : ProcessVariables := fun name =>
  [("HTTP_PROXY", "http://proxy:3128".toUTF8), ("NO_PROXY", ⟨#[0xFF]⟩)].lookup name

/-- A desired state that declares names which operators prescribe, one of them twice. -/
def contestedSpec : AgentSpec :=
  { env :=
      [{ name := "http_proxy", value := some "declared" },
        { name := "POD_NAME", value := some "declared" },
        { name := "no_proxy", value := some "first" },
        { name := "no_proxy", value := some "second" }] }

/-- Of the declared names, the prescribed ones have the variables of the operator, and the others
those of the resource. -/
theorem contested_environment :
    ∃ env, (agentContainer (Settings.fromVariables proxiedVariables) contestedSpec true).env =
        some env ∧
      effective? env "http_proxy" =
        some { name := "http_proxy", value := some "http://proxy:3128" } ∧
      (effective? env "POD_NAME").bind EnvVar.value = none ∧
      effective? env "no_proxy" = some { name := "no_proxy", value := some "second" } := by
  obtain ⟨env, henv, -, hprescribed, hothers⟩ :=
    container_environment proxiedVariables contestedSpec true
  have hset : proxiedVariables.Holds "HTTP_PROXY" "http://proxy:3128" := rfl
  refine ⟨env, henv, hprescribed _ (.proxy (by decide) hset), ?_, ?_⟩
  · rw [hprescribed _ .podName]
    rfl
  · rw [hothers]
    · decide
    · intro entry hentry
      cases hentry with
      | podName => decide
      | @proxy _ _ value hspelling hheld =>
          rintro rfl
          have hproxy : ∀ pair ∈ proxySpellings, pair.2 = "no_proxy" → pair.1 = "NO_PROXY" := by
            decide
          cases hproxy _ hspelling rfl
          exact ProcessVariables.not_holds_of_not_valid rfl (by decide) value hheld

end AgentOperator.Environment
