import Mathlib.Data.List.Chain
import Mathlib.Data.List.Nodup
import BucketPlan.Proofs.Course

namespace BucketPlan

namespace State

/-- How far along a state is. Both verdicts stand at the end. -/
def rank : State → Nat
  | received => 0
  | validating => 1
  | defaulting => 2
  | compiling => 3
  | bundled => 4
  | rejected => 4

theorem rank_lt_five (s : State) : s.rank < 5 := by
  cases s <;> decide

theorem rank_lt_of_next {source target : State} (follows : target ∈ source.next) :
    source.rank < target.rank := by
  cases source <;> cases target <;> revert follows <;> decide

theorem received_not_next {source : State} : .received ∉ source.next := by
  cases source <;> decide

/-- A row of states that starts where every compilation does, each state one that may follow the last. -/
structure IsPassage (states : List State) : Prop where
  starts : states.head? = some .received
  follows : states.IsChain fun source target => target ∈ source.next

namespace IsPassage

variable {states : List State}

theorem distinct (passage : IsPassage states) : (states.map rank).Nodup := by
  have chain : (states.map rank).IsChain (· < ·) :=
    (List.isChain_map rank).mpr (passage.follows.imp fun _ _ => rank_lt_of_next)
  exact chain.pairwise.imp fun less => Nat.ne_of_lt less

/-- There are five ranks, so five states at most. -/
theorem length_le_five (passage : IsPassage states) : states.length ≤ 5 := by
  have bounded : states.map rank ⊆ List.range 5 := by
    intro r member
    obtain ⟨s, _, rfl⟩ := List.mem_map.mp member
    exact List.mem_range.mpr s.rank_lt_five
  have counted := (List.subperm_of_subset passage.distinct bounded).length_le
  simpa only [List.length_map, List.length_range] using counted

theorem one_verdict (passage : IsPassage states) : ¬(.bundled ∈ states ∧ .rejected ∈ states) := by
  rintro ⟨bundled, rejected⟩
  cases List.inj_on_of_nodup_map passage.distinct bundled rejected rfl

theorem enter {target : State} (passage : IsPassage states) (last : State)
    (ends : states.getLast? = some last) (follows : target ∈ last.next) :
    IsPassage (states ++ [target]) where
  starts := by rw [List.head?_append, passage.starts, Option.some_or]
  follows := by
    refine List.isChain_append.mpr ⟨passage.follows, List.isChain_singleton _, ?_⟩
    intro source atEnd next first
    cases atEnd.symm.trans ends
    cases first
    exact follows

/-- Nothing leads back to the start. -/
theorem eq_start {past : List State} (passage : IsPassage (past ++ [.received])) : past = [] := by
  cases reversed : past.getLast? with
  | none => exact List.getLast?_eq_none_iff.mp reversed
  | some last =>
    have leads := (List.isChain_append.mp passage.follows).2.2 last reversed .received rfl
    exact absurd leads received_not_next

end IsPassage

end State

namespace Compilation

/-- What a compilation can be told: to run, or to move on to a state. -/
inductive Command where
  | run
  | advance (target : State)
deriving DecidableEq, Repr

/-- A compilation after a command, with the answer to it. One that cannot move stays as it is. -/
def obey (c : Compilation) : Command → Compilation × Except Fault (Option Result)
  | .run => (c.run.after, c.run.outcome.map some)
  | .advance target =>
    match c.advance target with
    | .ok moved => (moved, .ok none)
    | .error fault => (c, .error fault)

/-- A compilation after a row of commands, whatever the answers to them were. -/
def obeyAll (c : Compilation) (commands : List Command) : Compilation :=
  commands.foldl (fun c command => (c.obey command).1) c

/-- A command is refused: its answer is a runtime error, and nothing about the compilation changes. -/
def Refuses (c : Compilation) (command : Command) : Prop :=
  ∃ fault : Fault, fault.category = "RuntimeError" ∧ c.obey command = (c, .error fault)

variable {c : Compilation}

theorem obey_advance {target : State} (follows : target ∈ c.state.next) :
    c.obey (.advance target) = (c.enter target, .ok none) := by
  rw [obey, advance, if_pos follows]

theorem refuses_advance_iff {target : State} :
    c.Refuses (.advance target) ↔ target ∉ c.state.next := by
  constructor
  · intro refused follows
    obtain ⟨fault, _, answered⟩ := refused
    rw [obey_advance follows] at answered
    cases congrArg Prod.snd answered
  · intro leads
    refine ⟨.illegalMove c.state.name target.name, rfl, ?_⟩
    rw [obey, advance, if_neg leads]

theorem run_of_moved (moved : c.state ≠ .received) :
    c.run = c.fail [] false [c.startEntry] (.illegalMove c.state.name State.validating.name) := by
  have leads : State.validating ∉ c.state.next := by
    cases state : c.state with
    | received => exact absurd state moved
    | _ => decide
  rw [run, advance, if_neg leads]

theorem refuses_run (moved : c.state ≠ .received) : c.Refuses .run := by
  refine ⟨.illegalMove c.state.name State.validating.name, rfl, ?_⟩
  rw [obey, run_of_moved moved]
  rfl

theorem isFresh_of_passage (passage : State.IsPassage c.history) (state : c.state = .received) :
    c.IsFresh := by
  rw [history, state] at passage
  exact ⟨state, passage.eq_start⟩

theorem Course.isPassage {log : Log} {plan : Option Plan} {states : List State}
    (course : c.Course log plan states) : State.IsPassage states := by
  cases course with
  | turnedDown => exact ⟨rfl, by decide⟩
  | unplannable => exact ⟨rfl, by decide⟩
  | complete => exact ⟨rfl, by decide⟩

theorem Course.moves {log : Log} {plan : Option Plan} {states : List State}
    (course : c.Course log plan states) : states.getLast? ≠ some .received := by
  cases course <;> decide

theorem getLast?_history (c : Compilation) : c.history.getLast? = some c.state :=
  List.getLast?_concat ..

/-- A run that can start goes through the states of its course and never stands at the start again. -/
theorem run_passes (passage : State.IsPassage c.history) :
    State.IsPassage c.run.after.history ∧ c.run.after.state ≠ .received := by
  by_cases state : c.state = .received
  · obtain ⟨plan, states, course, ends⟩ := run_ends (isFresh_of_passage passage state)
    have last := c.run.after.getLast?_history
    rw [ends.history] at last ⊢
    refine ⟨course.isPassage, fun back => course.moves ?_⟩
    rw [last, back]
  · rw [run_of_moved state]
    exact ⟨passage, state⟩

/-- What one command does to a passage: it goes on, and is never at its start again. -/
theorem obey_passes (command : Command) (passage : State.IsPassage c.history) :
    State.IsPassage (c.obey command).1.history ∧
      (c.state ≠ .received ∨ command = .run → (c.obey command).1.state ≠ .received) := by
  cases command with
  | run =>
    obtain ⟨goesOn, moved⟩ := run_passes passage
    exact ⟨goesOn, fun _ => moved⟩
  | advance target =>
    by_cases follows : target ∈ c.state.next
    · rw [obey_advance follows]
      refine ⟨passage.enter _ c.getLast?_history follows, fun _ back => ?_⟩
      have arrived : target = .received := back
      rw [arrived] at follows
      exact State.received_not_next follows
    · obtain ⟨fault, _, answered⟩ := refuses_advance_iff.mpr follows
      rw [answered]
      refine ⟨passage, fun moved => moved.resolve_right ?_⟩
      exact Command.noConfusion

/-- What commands one after the other do: the passage goes on, and a compilation that has run, or has
been moved in the first place, never stands at its start again. -/
theorem obeyAll_passes (commands : List Command) (passage : State.IsPassage c.history) :
    State.IsPassage (c.obeyAll commands).history ∧
      (c.state ≠ .received ∨ .run ∈ commands → (c.obeyAll commands).state ≠ .received) := by
  induction commands generalizing c with
  | nil => exact ⟨passage, fun moved => moved.resolve_right List.not_mem_nil⟩
  | cons command rest ih =>
    obtain ⟨next, onward⟩ := obey_passes command passage
    obtain ⟨goesOn, stays⟩ := ih next
    refine ⟨goesOn, fun moved => stays ?_⟩
    rcases moved with moved | told
    · exact Or.inl (onward (Or.inl moved))
    · rcases List.mem_cons.mp told with here | later
      · exact Or.inl (onward (Or.inr here.symm))
      · exact Or.inr later

/-- A compilation only moves forward, and runs once. Whatever it is told, its history starts where it
was received, goes from each state to one that may follow, ends in the current state, is five states
long at most and holds one verdict at most. It refuses exactly the moves that are not allowed, and any
run after the first. -/
theorem forward_and_single_use (descriptor : Descriptor) (options : Options) (log : Log)
    (commands : List Command) :
    let c := obeyAll { descriptor := descriptor, options := options, log := log } commands
    State.IsPassage c.history ∧ c.history.getLast? = some c.state ∧ c.history.length ≤ 5 ∧
      ¬(.bundled ∈ c.history ∧ .rejected ∈ c.history) ∧
      (∀ target, c.Refuses (.advance target) ↔ target ∉ c.state.next) ∧
      (.run ∈ commands → c.Refuses .run) := by
  intro c
  have start : State.IsPassage
      ({ descriptor := descriptor, options := options, log := log } : Compilation).history :=
    ⟨rfl, List.isChain_singleton _⟩
  obtain ⟨passage, moved⟩ := obeyAll_passes commands start
  exact ⟨passage, c.getLast?_history, passage.length_le_five, passage.one_verdict,
    fun _ => refuses_advance_iff, fun told => refuses_run (moved (Or.inr told))⟩

/-- A bucket that is compiled, and then told to be rejected after all. -/
def compiledSite : Compilation :=
  obeyAll { descriptor := { name := some "site" } } [.run, .advance .rejected]

theorem compiledSite_refuses_run :
    compiledSite.history = [.received, .validating, .defaulting, .compiling, .bundled] ∧
      Command.run ∈ [Command.run, .advance .rejected] ∧ compiledSite.Refuses .run := by
  have told : Command.run ∈ [Command.run, .advance .rejected] := by decide
  obtain ⟨_, _, _, _, _, refuses⟩ :=
    forward_and_single_use { name := some "site" } {} [] [.run, .advance .rejected]
  exact ⟨by decide +kernel, told, refuses told⟩

end Compilation

end BucketPlan
