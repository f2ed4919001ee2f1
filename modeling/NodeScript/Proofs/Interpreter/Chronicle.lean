/-
  A simulation is determined by its past.

  The past of an interpreter is the list of the commands that succeeded since it
  was last reset. Nodes and API can be read off it: a node is known if it was
  started, it is stopped if a stop came after its last start, and the API is what
  was set last. `Reflects past s` says so of a state `s`. `Effect` lists all that
  a command can do to nodes and API; each case takes a state that reflects a past
  to one that reflects the past with the command added (`Reflects.step`), and so
  every run of deeds does (`reflects_performAll`).
-/
import NodeScript.Interpreter.Run
import NodeScript.Proofs.Simulation.Nodes

namespace NodeScript

/-! ### Deeds -/

/-- What can be asked of an interpreter. -/
inductive Deed where
  | evaluate (c : Command)
  | execute (label script : Bytes)
  | run (script : Bytes)
  | exportOutput (path : Bytes)
  | reset

namespace Interpreter

variable {σ : Type} [Host σ]

/-- The interpreter after a deed. -/
def perform (i : Interpreter σ) : Deed → Interpreter σ
  | .evaluate c => (i.evaluate c).1
  | .execute label script => (i.execute label script).1
  | .run script => (i.run script).1
  | .exportOutput path => (i.exportOutput path).1
  | .reset => i.reset

/-- The interpreter after deeds, one after another. -/
def performAll (i : Interpreter σ) (deeds : List Deed) : Interpreter σ := deeds.foldl perform i

/-! ### The past -/

/-- Whether a command has an action and the action succeeds. Its evaluation
begins with a report, so the action finds the interpreter after that report. -/
def succeeds (i : Interpreter σ) (c : Command) : Bool :=
  match Action.ofKind? c.kind with
  | none => false
  | some action =>
    (action (i.report .debug [commandField c] (utf8 "evaluating")) c.text).2.isNone

/-- Those of the commands that succeed when all are evaluated in turn. -/
def successes (i : Interpreter σ) : List Command → List Command
  | [] => []
  | c :: cs => (if i.succeeds c then [c] else []) ++ (i.evaluate c).1.successes cs

/-- The commands that succeed in the course of a deed. -/
def achieved (i : Interpreter σ) : Deed → List Command
  | .evaluate c => i.successes [c]
  | .execute label script => i.successes (readScript label script)
  | .run script => (i.update Simulation.clear).successes (readScript (utf8 "script") script)
  | .exportOutput _ => []
  | .reset => []

/-- The past once a deed is done: a reset forgets it, and any other deed adds
what it achieves. -/
def remember (i : Interpreter σ) (past : List Command) : Deed → List Command
  | .reset => []
  | deed => past ++ i.achieved deed

/-- The past after deeds, given the past before them. -/
def chronicle (i : Interpreter σ) (past : List Command) : List Deed → List Command
  | [] => past
  | deed :: deeds => (i.perform deed).chronicle (i.remember past deed) deeds

end Interpreter

/-- A command that asks to start the node with the given number. -/
def Command.starts (c : Command) (n : Int) : Prop :=
  c.kind = .start ∧ ∃ digits, Pattern.nodeId.find? c.text = some digits ∧
    (Bytes.digitsValue digits : Int) = n

/-- A command that asks to set the API to the given value. -/
def Command.setsApi (c : Command) (v : Bytes) : Prop :=
  c.kind = .setApi ∧ Pattern.nodeApi.find? c.text = some v

/-- A command of a kind that has no say in nodes and API. -/
def Command.Neutral (c : Command) : Prop :=
  c.kind ≠ .start ∧ c.kind ≠ .stop ∧ c.kind ≠ .setApi

/-- `c` is the last command of the past with the property `p`, and `after` is what
came after it. -/
def Last (p : Command → Prop) (past : List Command) (c : Command) (after : List Command) :
    Prop :=
  (∃ before, past = before ++ c :: after) ∧ p c ∧ ∀ d ∈ after, ¬ p d

/-- The last command with a property, after one more command: it is the new one
if that has the property, and otherwise the one it was. -/
theorem Last.cases_concat {p : Command → Prop} {past after : List Command} {c d : Command}
    (h : Last p (past ++ [d]) c after) :
    (p d ∧ c = d ∧ after = []) ∨ (¬ p d ∧ ∃ rest, after = rest ++ [d] ∧ Last p past c rest) := by
  obtain ⟨⟨before, hpast⟩, hc, hafter⟩ := h
  -- Either nothing came after `c`, which is then the new command, or what came after
  -- ends with the new command.
  rcases List.eq_nil_or_concat' after with rfl | ⟨rest, e, rfl⟩
  · obtain ⟨-, hd⟩ := List.append_inj' hpast rfl
    have hd : d = c := List.singleton_inj.mp hd
    subst hd
    exact .inl ⟨hc, rfl, rfl⟩
  · rw [← List.cons_append, ← List.append_assoc] at hpast
    obtain ⟨hpast', he⟩ := List.append_inj' hpast rfl
    have he : d = e := List.singleton_inj.mp he
    subst he
    refine .inr ⟨hafter d (by simp), rest, rfl, ⟨before, hpast'⟩, hc, fun e he => ?_⟩
    exact hafter e (List.mem_append_left _ he)

/-- A table of nodes is the one that a past leads to. -/
structure ReflectsNodes (past : List Command) (t : NodeTable) : Prop where
  /-- The known nodes are those that were started. -/
  known : ∀ n, (t.get? n).isSome ↔ ∃ c ∈ past, c.starts n
  /-- A node is stopped if a stop came after its last start, and running if
  not. -/
  status : ∀ n c after, Last (·.starts n) past c after →
    t.get? n = some (if ∃ d ∈ after, d.kind = .stop then .stopped else .started)
  /-- The numbers of nodes fit in 64 bits. -/
  range : ∀ n, (t.get? n).isSome → 0 ≤ n ∧ n < 2 ^ 63

/-- A reference of the node API is the one that a past leads to. -/
structure ReflectsApi (past : List Command) (api : Bytes) : Prop where
  /-- It is empty as long as it was never set. -/
  unset : (∀ c ∈ past, c.kind ≠ .setApi) → api = []
  /-- It is what it was last set to. -/
  last : ∀ c after, Last (·.kind = .setApi) past c after → c.setsApi api

/-- The state of a simulation is the one that a past leads to. -/
def Reflects (past : List Command) (s : Simulation) : Prop :=
  ReflectsNodes past s.nodes ∧ ReflectsApi past s.api

/-! ### What one command does -/

/-- All that a command may do to nodes and API, depending on whether it
succeeds. -/
inductive Effect (c : Command) (s s' : Simulation) : Bool → Prop where
  | start (n : Nat) (hc : c.starts n) (hn : n < 2 ^ 63)
      (nodes : s'.nodes = s.nodes.start n) (api : s'.api = s.api) : Effect c s s' true
  | stop (hc : c.kind = .stop) (nodes : s'.nodes = s.nodes.stopAll) (api : s'.api = s.api) :
      Effect c s s' true
  | setApi (hc : c.setsApi s'.api) (nodes : s'.nodes = s.nodes) : Effect c s s' true
  | none {success : Bool} (hc : success = true → c.Neutral) (nodes : s'.nodes = s.nodes)
      (api : s'.api = s.api) : Effect c s s' success

namespace Action

variable {σ : Type}

/-- A malformed command has no effect. -/
theorem effect_malformed (c : Command) (i : Interpreter σ) :
    Effect c i.simulation (malformed i).1.simulation (malformed i).2.isNone := by
  refine .none (fun h => ?_) rfl rfl
  exact absurd h Bool.false_ne_true

/-- A neutral command that writes a file has no effect, whether the file is
written or not. -/
theorem effect_confirm {c : Command} (hc : c.Neutral) (s : Simulation)
    (written : Interpreter σ × Option WriteFailure) (line : Bytes)
    (hs : written.1.simulation = s) :
    Effect c s (confirm written line).1.simulation (confirm written line).2.isNone := by
  obtain ⟨i, _ | failure⟩ := written
  · exact .none (fun _ => hc) (hs ▸ rfl) (hs ▸ rfl)
  · exact .none (fun _ => hc) (hs ▸ rfl) (hs ▸ rfl)

theorem effect_start {c : Command} (hc : c.kind = .start) (i : Interpreter σ) :
    Effect c i.simulation (start i c.text).1.simulation (start i c.text).2.isNone := by
  unfold start
  cases hf : Pattern.nodeId.find? c.text with
  | none => exact effect_malformed c i
  | some digits =>
    dsimp only
    split
    · next hle =>
      have hn : Bytes.digitsValue digits < 2 ^ 63 := Nat.lt_of_le_pred (by decide) hle
      exact .start (Bytes.digitsValue digits) ⟨hc, digits, hf, rfl⟩ hn rfl rfl
    · exact effect_malformed c i

theorem effect_stop {c : Command} (hc : c.kind = .stop) (i : Interpreter σ) :
    Effect c i.simulation (stop i c.text).1.simulation (stop i c.text).2.isNone := by
  unfold stop
  split
  · exact .stop hc rfl rfl
  · exact effect_malformed c i

theorem effect_setApi {c : Command} (hc : c.kind = .setApi) (i : Interpreter σ) :
    Effect c i.simulation (setApi i c.text).1.simulation (setApi i c.text).2.isNone := by
  unfold setApi
  cases hf : Pattern.nodeApi.find? c.text with
  | none => exact effect_malformed c i
  | some v => exact .setApi ⟨hc, hf⟩ rfl

/-- The effect of the action that belongs to the kind of a command. -/
theorem effect_ofKind? [Host σ] {c : Command} {action : Action σ} (h : ofKind? c.kind = some action)
    (i : Interpreter σ) :
    Effect c i.simulation (action i c.text).1.simulation (action i c.text).2.isNone := by
  have hneutral : c.kind ∉ [Kind.start, .stop, .setApi] → c.Neutral := by
    intro hc
    simpa [Command.Neutral] using hc
  cases hc : c.kind <;> rw [hc] at h hneutral <;> cases h
  case start => exact effect_start hc i
  case stop => exact effect_stop hc i
  case setApi => exact effect_setApi hc i
  case connect => exact .none (fun _ => hneutral (by decide)) rfl rfl
  case stat =>
    unfold stat
    split
    · exact .none (fun _ => hneutral (by decide)) rfl rfl
    · exact .none (fun _ => hneutral (by decide)) rfl rfl
  case log => exact effect_confirm (hneutral (by decide)) _ (i.write i.sink _) _ rfl
  case exportOutput =>
    unfold exportOutput
    cases Pattern.exportPath.find? c.text with
    | none => exact effect_malformed c i
    | some path => exact effect_confirm (hneutral (by decide)) _ (i.save path) _ rfl
  case compress => exact .none (fun _ => hneutral (by decide)) rfl rfl
  case standalone => exact .none (fun _ => hneutral (by decide)) rfl rfl
  case send =>
    unfold send
    cases Pattern.sendArgument.find? c.text with
    | none => exact effect_malformed c i
    | some argument => exact .none (fun _ => hneutral (by decide)) rfl rfl

end Action

/-- The effect of evaluating a command. What is reported on the way does not
touch the simulation. -/
theorem Interpreter.effect_evaluate {σ : Type} [Host σ] (i : Interpreter σ) (c : Command) :
    Effect c i.simulation (i.evaluate c).1.simulation (i.succeeds c) := by
  unfold evaluate succeeds
  cases h : Action.ofKind? (σ := σ) c.kind with
  | none => exact .none (fun h => absurd h Bool.false_ne_true) rfl rfl
  | some action =>
    have he := Action.effect_ofKind? h (i.report .debug [commandField c] (utf8 "evaluating"))
    dsimp only at he ⊢
    revert he
    generalize action (i.report .debug [commandField c] (utf8 "evaluating")) c.text = outcome
    obtain ⟨j, _ | _ | failure⟩ := outcome
    · exact id
    · exact id
    · exact id

namespace Effect

variable {c : Command} {s s' : Simulation} {success : Bool}

/-- Nodes and API change only if a command succeeds that is not neutral. -/
theorem same (e : Effect c s s' success) (h : success = true → c.Neutral) :
    s'.nodes = s.nodes ∧ s'.api = s.api := by
  cases e with
  | start n hc => exact absurd hc.1 (h rfl).1
  | stop hc => exact absurd hc (h rfl).2.1
  | setApi hc => exact absurd hc.1 (h rfl).2.2
  | none _ nodes api => exact ⟨nodes, api⟩

/-- A known node stays known. -/
theorem known (e : Effect c s s' success) {n : Int} (h : (s.nodes.get? n).isSome) :
    (s'.nodes.get? n).isSome := by
  cases e with
  | start m _ _ nodes =>
    rw [nodes, NodeTable.get?_start]
    split
    · rfl
    · exact h
  | stop _ nodes => rwa [nodes, NodeTable.get?_stopAll, Option.isSome_map]
  | setApi _ nodes => rwa [nodes]
  | none _ nodes => rwa [nodes]

end Effect

/-! ### One more command in the past -/

/-- A command starts one node at most. -/
theorem Command.starts.unique {c : Command} {m n : Int} (hm : c.starts m) (hn : c.starts n) :
    m = n := by
  obtain ⟨-, digits, hf, rfl⟩ := hm
  obtain ⟨-, digits', hf', rfl⟩ := hn
  rw [hf] at hf'
  cases hf'
  rfl

theorem not_last_nil {p : Command → Prop} {c : Command} {after : List Command} :
    ¬ Last p [] c after := by
  rintro ⟨⟨before, hpast⟩, -⟩
  exact absurd hpast.symm (by simp)

namespace ReflectsNodes

variable {past : List Command} {t : NodeTable} {c : Command}

theorem nil : ReflectsNodes [] .empty where
  known n := by simp
  status _ _ _ h := absurd h not_last_nil
  range n h := by simp at h

/-- A start makes its node known and running, and of the other nodes the past
says what it said. -/
theorem start {n : Nat} (h : ReflectsNodes past t) (hc : c.starts n) (hn : n < 2 ^ 63) :
    ReflectsNodes (past ++ [c]) (t.start n) where
  known m := by
    rw [NodeTable.get?_start]
    by_cases hm : m = n
    · subst hm
      simp [hc]
    · have hcm : ¬ c.starts m := fun hcm => hm (Command.starts.unique hcm hc)
      simp [hm, hcm, h.known]
  status m d after hlast := by
    rw [NodeTable.get?_start]
    -- The last start of the node is the new command, or the one it was before; in the
    -- second case another node is started, and no stop is added.
    rcases hlast.cases_concat with ⟨hcm, -, rfl⟩ | ⟨hcm, rest, rfl, hrest⟩
    · rw [if_pos (Command.starts.unique hcm hc)]
      simp
    · have hm : m ≠ n := fun hm => hcm (hm ▸ hc)
      have hstop : c.kind ≠ .stop := by simp [hc.1]
      rw [if_neg hm, h.status m d rest hrest]
      simp [or_and_right, exists_or, hstop]
  range m hm := by
    rw [NodeTable.get?_start] at hm
    split at hm
    · next heq =>
      subst heq
      omega
    · exact h.range m hm

/-- A stop stops every node that was ever started. -/
theorem stop (h : ReflectsNodes past t) (hc : c.kind = .stop) :
    ReflectsNodes (past ++ [c]) t.stopAll where
  known m := by
    have hcm : ¬ c.starts m := fun hcm => absurd (hc.symm.trans hcm.1) (by decide)
    rw [NodeTable.get?_stopAll, Option.isSome_map, h.known]
    simp [hcm]
  status m d after hlast := by
    rw [NodeTable.get?_stopAll]
    rcases hlast.cases_concat with ⟨hcm, -⟩ | ⟨-, rest, rfl, hrest⟩
    · exact absurd (hc.symm.trans hcm.1) (by decide)
    -- The stop itself comes after every start.
    · have hstop : ∃ e ∈ rest ++ [c], e.kind = .stop := ⟨c, by simp, hc⟩
      rw [h.status m d rest hrest, if_pos hstop]
      rfl
  range m hm := by
    rw [NodeTable.get?_stopAll, Option.isSome_map] at hm
    exact h.range m hm

/-- A command that neither starts nor stops leaves the table as it is. -/
theorem keep (h : ReflectsNodes past t) (hstart : c.kind ≠ .start) (hstop : c.kind ≠ .stop) :
    ReflectsNodes (past ++ [c]) t where
  known m := by
    have hcm : ¬ c.starts m := fun hcm => hstart hcm.1
    rw [h.known]
    simp [hcm]
  status m d after hlast := by
    rcases hlast.cases_concat with ⟨hcm, -⟩ | ⟨-, rest, rfl, hrest⟩
    · exact absurd hcm.1 hstart
    · rw [h.status m d rest hrest]
      simp [or_and_right, exists_or, hstop]
  range := h.range

end ReflectsNodes

namespace ReflectsApi

variable {past : List Command} {api : Bytes} {c : Command}

theorem nil : ReflectsApi [] [] where
  unset _ := rfl
  last _ _ h := absurd h not_last_nil

theorem set (hc : c.setsApi api) : ReflectsApi (past ++ [c]) api where
  unset h := absurd hc.1 (h c (by simp))
  last d after hlast := by
    rcases hlast.cases_concat with ⟨-, rfl, -⟩ | ⟨hkind, -⟩
    · exact hc
    · exact absurd hc.1 hkind

theorem keep (h : ReflectsApi past api) (hc : c.kind ≠ .setApi) :
    ReflectsApi (past ++ [c]) api where
  unset hnone := h.unset fun d hd => hnone d (List.mem_append_left _ hd)
  last d after hlast := by
    rcases hlast.cases_concat with ⟨hkind, -⟩ | ⟨-, rest, -, hrest⟩
    · exact absurd hkind hc
    · exact h.last d rest hrest

end ReflectsApi

/-- A command takes a state that reflects a past to one that reflects the past
with the command, if it succeeded, and without it, if not. -/
theorem Reflects.step {past : List Command} {s s' : Simulation} {c : Command} {success : Bool}
    (h : Reflects past s) (e : Effect c s s' success) :
    Reflects (past ++ if success then [c] else []) s' := by
  obtain ⟨hn, ha⟩ := h
  unfold Reflects
  cases e with
  | start n hc hlt nodes api =>
    rw [nodes, api]
    exact ⟨hn.start hc hlt, ha.keep (by simp [hc.1])⟩
  | stop hc nodes api =>
    rw [nodes, api]
    exact ⟨hn.stop hc, ha.keep (by simp [hc])⟩
  | setApi hc nodes =>
    rw [nodes]
    exact ⟨hn.keep (by simp [hc.1]) (by simp [hc.1]), .set hc⟩
  | none hc nodes api =>
    rw [nodes, api]
    cases success with
    | false => simpa using ⟨hn, ha⟩
    | true =>
      obtain ⟨hstart, hstop, hset⟩ := hc rfl
      exact ⟨hn.keep hstart hstop, ha.keep hset⟩

/-! ### Runs -/

namespace Interpreter

variable {σ : Type} [Host σ]

/-- Commands one after another add those that succeed to the past. -/
theorem reflects_evaluateAll {past : List Command} (i : Interpreter σ) (cs : List Command)
    (h : Reflects past i.simulation) :
    Reflects (past ++ i.successes cs) (i.evaluateAll cs).1.simulation := by
  induction cs generalizing i past with
  | nil =>
    rw [successes, List.append_nil]
    exact h
  | cons c cs ih =>
    rw [successes, ← List.append_assoc]
    exact ih (i.evaluate c).1 (h.step (i.effect_evaluate c))

/-- Exporting changes neither nodes nor API. -/
theorem exportOutput_same (i : Interpreter σ) (path : Bytes) :
    (i.exportOutput path).1.simulation.nodes = i.simulation.nodes ∧
      (i.exportOutput path).1.simulation.api = i.simulation.api := by
  have hsave : (i.save path).1.simulation = i.simulation := rfl
  unfold exportOutput
  rcases hs : i.save path with ⟨j, _ | failure⟩
  · rw [hs] at hsave
    rw [← hsave]
    exact ⟨rfl, rfl⟩
  · rw [hs] at hsave
    rw [← hsave]
    exact ⟨rfl, rfl⟩

theorem reflects_perform {past : List Command} (i : Interpreter σ) (deed : Deed)
    (h : Reflects past i.simulation) :
    Reflects (i.remember past deed) (i.perform deed).simulation := by
  cases deed with
  | evaluate c => exact i.reflects_evaluateAll [c] h
  | execute label script => exact i.reflects_evaluateAll _ h
  | run script => exact (i.update Simulation.clear).reflects_evaluateAll _ h
  | exportOutput path =>
    obtain ⟨hnodes, hapi⟩ := i.exportOutput_same path
    unfold Reflects perform
    rw [hnodes, hapi]
    rw [remember, achieved, List.append_nil]
    · exact h
    · exact Deed.noConfusion
  | reset => exact ⟨.nil, .nil⟩

/-- Commands change nothing about nodes and API unless one succeeds that is not
neutral. -/
theorem evaluateAll_same (i : Interpreter σ) (cs : List Command)
    (h : ∀ c ∈ i.successes cs, c.Neutral) :
    (i.evaluateAll cs).1.simulation.nodes = i.simulation.nodes ∧
      (i.evaluateAll cs).1.simulation.api = i.simulation.api := by
  induction cs generalizing i with
  | nil => exact ⟨rfl, rfl⟩
  | cons c cs ih =>
    rw [successes] at h
    obtain ⟨hnodes, hapi⟩ := ih (i.evaluate c).1 fun d hd => h d (List.mem_append_right _ hd)
    obtain ⟨hnodes', hapi'⟩ := (i.effect_evaluate c).same fun hc => h c (by simp [hc])
    exact ⟨hnodes.trans hnodes', hapi.trans hapi'⟩

theorem known_evaluateAll (i : Interpreter σ) (cs : List Command) {n : Int}
    (h : (i.simulation.nodes.get? n).isSome) :
    ((i.evaluateAll cs).1.simulation.nodes.get? n).isSome := by
  induction cs generalizing i with
  | nil => exact h
  | cons c cs ih => exact ih (i.evaluate c).1 ((i.effect_evaluate c).known h)

/-- A deed other than a reset changes nothing about nodes and API unless a command
succeeds in its course that is not neutral. -/
theorem perform_same (i : Interpreter σ) (deed : Deed) (hd : deed ≠ .reset)
    (h : ∀ c ∈ i.achieved deed, c.Neutral) :
    (i.perform deed).simulation.nodes = i.simulation.nodes ∧
      (i.perform deed).simulation.api = i.simulation.api := by
  cases deed with
  | evaluate c => exact i.evaluateAll_same [c] h
  | execute label script => exact i.evaluateAll_same _ h
  | run script => exact (i.update Simulation.clear).evaluateAll_same _ h
  | exportOutput path => exact i.exportOutput_same path
  | reset => exact absurd rfl hd

/-- No deed but a reset makes a node unknown. -/
theorem known_perform (i : Interpreter σ) (deed : Deed) (hd : deed ≠ .reset) {n : Int}
    (h : (i.simulation.nodes.get? n).isSome) :
    ((i.perform deed).simulation.nodes.get? n).isSome := by
  cases deed with
  | evaluate c => exact i.known_evaluateAll [c] h
  | execute label script => exact i.known_evaluateAll _ h
  | run script => exact (i.update Simulation.clear).known_evaluateAll _ h
  | exportOutput path =>
    obtain ⟨hnodes, -⟩ := i.exportOutput_same path
    unfold perform
    rwa [hnodes]
  | reset => exact absurd rfl hd

/-- Deeds one after another lead to the state that their past tells. -/
theorem reflects_performAll {past : List Command} (i : Interpreter σ) (deeds : List Deed)
    (h : Reflects past i.simulation) :
    Reflects (i.chronicle past deeds) (i.performAll deeds).simulation := by
  induction deeds generalizing i past with
  | nil => exact h
  | cons deed deeds ih => exact ih (i.perform deed) (i.reflects_perform deed h)

end Interpreter

/-- Whatever a new interpreter is asked to do, its nodes and its API are those that
the commands tell which succeeded since the last reset. From there on, nothing but
a reset or the success of a command that starts, stops or sets the API changes
them, and nothing but a reset makes a node unknown. -/
theorem chronicle_determines_simulation {σ : Type} [Host σ] (host : σ) (id sink : Bytes)
    (deeds : List Deed) :
    let i := Interpreter.new host id sink
    let j := i.performAll deeds
    Reflects (i.chronicle [] deeds) j.simulation ∧
      ∀ deed ≠ .reset,
        ((∀ c ∈ j.achieved deed, c.Neutral) →
          (j.perform deed).simulation.nodes = j.simulation.nodes ∧
            (j.perform deed).simulation.api = j.simulation.api) ∧
        ∀ n, (j.simulation.nodes.get? n).isSome →
          ((j.perform deed).simulation.nodes.get? n).isSome := by
  intro i j
  refine ⟨i.reflects_performAll deeds ⟨.nil, .nil⟩, fun deed hd => ⟨?_, ?_⟩⟩
  · exact j.perform_same deed hd
  · intro n hn
    exact j.known_perform deed hd hn

end NodeScript
