import Mathlib.Tactic

/-!
# Atomic objects and the programs that use them

An object offers operations, each of which runs under the object's lock: it takes the state to a
new state and answers. A program is a sequence of operations in which each next step depends on the
answers so far (`Prog`), so a call that takes the lock several times is a program. Programs run
alone (`Prog.run`, `runAll`), or as the threads of a pool under a schedule (`Pool.run`), which names
step by step the thread whose next operation runs.

`logged` records every operation with its answer. A property that every operation preserves holds
after every program, every sequence of programs and every schedule (`run_invariant`,
`runAll_invariant`, `Pool.run_invariant`). A condition on single steps of a schedule is stated with
`Pool.throughout`, and `Pool.until_acts` reduces a statement about a schedule to the next step of
one thread. `Pool.Holds` relates the state to what is left of each program; if every step keeps it
for the thread that acts and for the others, it holds throughout (`Pool.throughout_of_holds`).
-/

namespace Iicp.Concurrent

open List

/-- The operations of an object, with the type of each operation's answer. -/
structure Interface where
  Op : Type
  Res : Op → Type

/-- An object: what each operation does to the state, and what it answers. -/
def Object (I : Interface) (σ : Type) := (op : I.Op) → σ → σ × I.Res op

/-- A program over an interface: it ends with a result, or runs an operation and goes on with the
answer. -/
inductive Prog (I : Interface) (α : Type) where
  | done (result : α)
  | call (op : I.Op) (next : I.Res op → Prog I α)

variable {I : Interface} {σ α β : Type} (object : Object I σ)

/-- Changes the result of a program. -/
def Prog.map (convert : α → β) : Prog I α → Prog I β
  | .done result => .done (convert result)
  | .call op next => .call op fun answer ↦ (next answer).map convert

/-- The answer of an operation, with the operation. -/
abbrev LogEntry (I : Interface) := (op : I.Op) × I.Res op

/-- The object that also records what it has done, oldest first. -/
def logged (object : Object I σ) : Object I (σ × List (LogEntry I)) := fun op state ↦
  (((object op state.1).1, state.2 ++ [⟨op, (object op state.1).2⟩]), (object op state.1).2)

@[simp] lemma logged_fst (op : I.Op) (state : σ × List (LogEntry I)) :
    (logged object op state).1.1 = (object op state.1).1 := rfl

@[simp] lemma logged_log (op : I.Op) (state : σ × List (LogEntry I)) :
    (logged object op state).1.2 = state.2 ++ [⟨op, (object op state.1).2⟩] := rfl

variable {op : I.Op}

lemma logged_of_eq {object : Object I σ} {state : σ × List (LogEntry I)} {next : σ}
    {reply : I.Res op} {property : σ × List (LogEntry I) → Prop}
    (heq : object op state.1 = (next, reply)) (h : property (next, state.2 ++ [⟨op, reply⟩])) :
    property (logged object op state).1 := by
  rw [logged, heq]
  exact h

/-- A property of states that every operation preserves. -/
def Invariant (object : Object I σ) (property : σ → Prop) : Prop :=
  ∀ op state, property state → property (object op state).1

/-! ### Programs that run alone -/

/-- Runs a program to its end with no other program in between. -/
def Prog.run (object : Object I σ) : Prog I α → σ → σ × α
  | .done result, state => (state, result)
  | .call op next, state => (next (object op state).2).run object (object op state).1

/-- Runs programs one after the other and collects their results. -/
def runAll (object : Object I σ) : List (Prog I α) → σ → σ × List α
  | [], state => (state, [])
  | program :: rest, state =>
    ((runAll object rest (program.run object state).1).1,
      (program.run object state).2 :: (runAll object rest (program.run object state).1).2)

variable {property : σ → Prop}

lemma run_invariant {object : Object I σ} (hstep : Invariant object property) (program : Prog I α) :
    ∀ state, property state → property (program.run object state).1 := by
  induction program with
  | done => intro state hstate; exact hstate
  | call op next ih => intro state hstate; exact ih _ _ (hstep op state hstate)

lemma runAll_invariant {object : Object I σ}
    (hstep : Invariant object property) (programs : List (Prog I α)) :
    ∀ state, property state → property (runAll object programs state).1 := by
  induction programs with
  | nil => intro state hstate; exact hstate
  | cons program rest ih =>
    intro state hstate
    exact ih _ (run_invariant hstep program state hstate)

lemma run_map (convert : α → β) (program : Prog I α) :
    ∀ state, (program.map convert).run object state =
      ((program.run object state).1, convert (program.run object state).2) := by
  induction program with
  | done => intro state; rfl
  | call op next ih => intro state; exact ih _ _

/-- Recording the operations of a program changes neither the state nor the result. -/
lemma run_logged (program : Prog I α) :
    ∀ state : σ × List (LogEntry I),
      (program.run (logged object) state).1.1 = (program.run object state.1).1 ∧
        (program.run (logged object) state).2 = (program.run object state.1).2 := by
  induction program with
  | done => intro state; exact ⟨rfl, rfl⟩
  | call op next ih => intro state; exact ih _ _

/-- Recording the operations of a sequence of programs changes neither the state nor the results. -/
lemma runAll_logged (programs : List (Prog I α)) :
    ∀ state : σ × List (LogEntry I),
      (runAll (logged object) programs state).1.1 = (runAll object programs state.1).1 ∧
        (runAll (logged object) programs state).2 = (runAll object programs state.1).2 := by
  induction programs with
  | nil => intro state; exact ⟨rfl, rfl⟩
  | cons program rest ih =>
    intro state
    obtain ⟨hstate, hresult⟩ := run_logged object program state
    obtain ⟨hrest, hresults⟩ := ih (program.run (logged object) state).1
    rw [hstate] at hrest hresults
    exact ⟨hrest, by rw [runAll, runAll, hresult, hresults]⟩

/-! ### Pools of threads -/

/-- The shared state with the rest of each thread's program. -/
structure Pool (I : Interface) (σ α : Type) where
  state : σ
  threads : List (Prog I α)

/-- The named thread runs its next operation. A thread that has ended, or is not there, leaves the
pool unchanged. -/
def Pool.step (object : Object I σ) (pool : Pool I σ α) (thread : ℕ) : Pool I σ α :=
  match pool.threads[thread]? with
  | some (.call op next) =>
    { state := (object op pool.state).1
      threads := pool.threads.set thread (next (object op pool.state).2) }
  | _ => pool

def Pool.run (object : Object I σ) (pool : Pool I σ α) (schedule : List ℕ) : Pool I σ α :=
  schedule.foldl (Pool.step object) pool

variable (pool : Pool I σ α) {program : Prog I α} {thread : ℕ}

@[simp] lemma Pool.run_cons (thread : ℕ) (rest : List ℕ) :
    pool.run object (thread :: rest) = (pool.step object thread).run object rest := rfl

lemma Pool.run_append (first second : List ℕ) :
    pool.run object (first ++ second) = (pool.run object first).run object second :=
  foldl_append

/-- What one scheduled step can do: nothing, or the next operation of the scheduled thread. -/
lemma Pool.step_cases (thread : ℕ) :
    pool.step object thread = pool ∨
      ∃ op next, pool.threads[thread]? = some (.call op next) ∧
        pool.step object thread =
          { state := (object op pool.state).1
            threads := pool.threads.set thread (next (object op pool.state).2) } := by
  unfold step
  split
  · rename_i op next hthread
    exact .inr ⟨op, next, hthread, rfl⟩
  · exact .inl rfl

lemma Pool.step_invariant {object : Object I σ}
    (hstep : Invariant object property) (pool : Pool I σ α) (thread : ℕ)
    (hstate : property pool.state) : property (pool.step object thread).state := by
  obtain heq | ⟨op, _, _, heq⟩ := pool.step_cases object thread
  · rw [heq]
    exact hstate
  · rw [heq]
    exact hstep op pool.state hstate

lemma Pool.run_invariant {object : Object I σ}
    (hstep : Invariant object property) (schedule : List ℕ) :
    ∀ pool : Pool I σ α, property pool.state → property (pool.run object schedule).state := by
  induction schedule with
  | nil => intro pool hstate; exact hstate
  | cons thread rest ih =>
    intro pool hstate
    exact ih _ (pool.step_invariant hstep thread hstate)

/-! ### Looking at a thread -/

/-- The operation a program runs next, if it has not ended. -/
def Prog.nextOp : Prog I α → Option I.Op
  | .done _ => none
  | .call op _ => some op

def Prog.result : Prog I α → Option α
  | .done result => some result
  | .call _ _ => none

/-- The operation that a thread of the pool runs next. -/
def Pool.nextOp (pool : Pool I σ α) (thread : ℕ) : Option I.Op :=
  pool.threads[thread]?.bind Prog.nextOp

def Pool.result (pool : Pool I σ α) (thread : ℕ) : Option α :=
  pool.threads[thread]?.bind Prog.result

/-- A condition on the pool and the scheduled thread holds before every step of a schedule. -/
def Pool.throughout (object : Object I σ) (condition : Pool I σ α → ℕ → Bool) :
    Pool I σ α → List ℕ → Bool
  | _, [] => true
  | pool, thread :: rest =>
    condition pool thread && Pool.throughout object condition (pool.step object thread) rest

lemma Pool.throughout_append (condition : Pool I σ α → ℕ → Bool) (first second : List ℕ) :
    ∀ pool : Pool I σ α, pool.throughout object condition (first ++ second) =
      (pool.throughout object condition first &&
        (pool.run object first).throughout object condition second) := by
  induction first with
  | nil => intro pool; rfl
  | cons thread rest ih =>
    intro pool
    rw [cons_append, throughout, ih, throughout, run_cons, Bool.and_assoc]

/-- The programs of all other threads pass a test. -/
def Pool.others (pool : Pool I σ α) (thread : ℕ) (test : Prog I α → Bool) : Bool :=
  (range pool.threads.length).all fun other ↦ other == thread || pool.threads[other]?.all test

variable {next : I.Res op → Prog I α}

lemma Pool.test_of_others {pool : Pool I σ α} {other : ℕ} {test : Prog I α → Bool}
    (htest : pool.others thread test) (hother : other ≠ thread)
    (hthread : pool.threads[other]? = some program) : test program := by
  have hrange : other ∈ range pool.threads.length :=
    List.mem_range.mpr (List.getElem?_eq_some_iff.mp hthread).1
  have hone := List.all_eq_true.mp htest other hrange
  simpa [hother, hthread] using hone

/-- A step of one thread leaves the others' programs as they are. -/
lemma Pool.step_other {other : ℕ} (hother : other ≠ thread) :
    (pool.step object thread).threads[other]? = pool.threads[other]? := by
  obtain heq | ⟨_, _, _, heq⟩ := pool.step_cases object thread
  · rw [heq]
  · rw [heq]
    exact List.getElem?_set_ne hother.symm

lemma Pool.step_call (hthread : pool.threads[thread]? = some (.call op next)) :
    (pool.step object thread).state = (object op pool.state).1 ∧
      (pool.step object thread).threads[thread]? = some (next (object op pool.state).2) := by
  have hrange : thread < pool.threads.length := (List.getElem?_eq_some_iff.mp hthread).1
  unfold step
  rw [hthread]
  exact ⟨rfl, List.getElem?_set_self hrange⟩

lemma Pool.step_logged {pool : Pool I (σ × List (LogEntry I)) α} {after : σ} {answer : I.Res op}
    (hthread : pool.threads[thread]? = some (.call op next))
    (heq : object op pool.state.1 = (after, answer)) :
    (pool.step (logged object) thread).state.1 = after ∧
      (pool.step (logged object) thread).threads[thread]? = some (next answer) := by
  obtain ⟨hstate, hnext⟩ := pool.step_call (logged object) hthread
  rw [hstate, hnext, logged, heq]
  exact ⟨rfl, rfl⟩

/-- A rule for schedules in which a thread still acts: until its next step the thread keeps its
program, so a property of the run that steps of other threads hand back has to be shown only for a
pool in which the thread acts first. The invariant is kept by every step under the condition. -/
lemma Pool.until_acts {object : Object I σ} {count : ℕ} {invariant : Pool I σ α → Prop}
    {condition : Pool I σ α → ℕ → Bool} (property : Pool I σ α → List ℕ → Prop)
    (hkeeps : ∀ pool other, invariant pool → condition pool other →
      invariant (pool.step object other))
    (hother : ∀ pool other rest, other ≠ thread → property (pool.step object other) rest →
      property pool (other :: rest))
    (hacts : ∀ pool rest, pool.threads[thread]? = some program → invariant pool →
      condition pool thread →
      (pool.step object thread).throughout object condition rest →
      count ≤ rest.count thread → property pool (thread :: rest)) (schedule : List ℕ) :
    ∀ pool : Pool I σ α, pool.threads[thread]? = some program → invariant pool →
      pool.throughout object condition schedule → count + 1 ≤ schedule.count thread →
      property pool schedule := by
  induction schedule with
  | nil => intro pool _ _ _ hcount; simp at hcount
  | cons next rest ih =>
    intro pool hthread hinvariant hthroughout hcount
    obtain ⟨hcondition, hrest⟩ := Bool.and_eq_true_iff.mp hthroughout
    by_cases hnext : next = thread
    · subst hnext
      rw [count_cons_self] at hcount
      exact hacts pool rest hthread hinvariant hcondition hrest (Nat.le_of_succ_le_succ hcount)
    · rw [count_cons_of_ne hnext] at hcount
      refine hother pool next rest hnext
        (ih _ ?_ (hkeeps pool next hinvariant hcondition) hrest hcount)
      rw [pool.step_other object (Ne.symm hnext)]
      exact hthread

/-! ### What the threads know -/

/-- One step of a program: the state after it and the rest of the program. -/
def Prog.advance (object : Object I σ) (state : σ) : Prog I α → σ × Prog I α
  | .done result => (state, .done result)
  | .call op next => ((object op state).1, next (object op state).2)

lemma Pool.step_of_thread (hthread : pool.threads[thread]? = some program) :
    pool.step object thread =
      { state := (program.advance object pool.state).1
        threads := pool.threads.set thread (program.advance object pool.state).2 } := by
  unfold step
  rw [hthread]
  cases program with
  | call => rfl
  | done result =>
    obtain ⟨_, hsame⟩ := List.getElem?_eq_some_iff.mp hthread
    change pool = { state := pool.state, threads := pool.threads.set thread (.done result) }
    rw [← hsame, set_getElem_self]

/-- A step of a thread whose program has just been put in its place. -/
lemma Pool.step_set {threads : List (Prog I α)} {state : σ} (hrange : thread < threads.length) :
    Pool.step object ⟨state, threads.set thread program⟩ thread =
      ⟨(program.advance object state).1, threads.set thread (program.advance object state).2⟩ := by
  rw [step_of_thread _ _ (List.getElem?_set_self hrange), set_set]

/-- Every call of a program has a property, whatever the answers are. -/
def Prog.Always (property : (op : I.Op) → (I.Res op → Prog I α) → Prop) : Prog I α → Prop
  | .done _ => True
  | .call op next => property op next ∧ ∀ answer, (next answer).Always property

lemma Prog.Always.advance {property : (op : I.Op) → (I.Res op → Prog I α) → Prop}
    (halways : program.Always property) (object : Object I σ) (state : σ) :
    (program.advance object state).2.Always property := by
  cases program with
  | done => exact halways
  | call => exact halways.2 _

/-- What always holds of all programs of a pool does so after a step. -/
lemma Pool.always_step {property : (op : I.Op) → (I.Res op → Prog I α) → Prop} {pool : Pool I σ α}
    (halways : ∀ program ∈ pool.threads, program.Always property) :
    ∀ program ∈ (pool.step object thread).threads, program.Always property := by
  intro program hprogram
  obtain heq | ⟨_, _, hthread, heq⟩ := pool.step_cases object thread
  · exact halways program (heq ▸ hprogram)
  · rw [heq] at hprogram
    obtain hold | rfl := List.mem_or_eq_of_mem_set hprogram
    · exact halways program hold
    · exact (halways _ (List.mem_of_getElem? hthread)).2 _

/-- A condition that follows from what always holds of the programs holds throughout. -/
lemma Pool.throughout_of_always {property : (op : I.Op) → (I.Res op → Prog I α) → Prop}
    {condition : Pool I σ α → ℕ → Bool} (hsafe : ∀ pool thread,
      (∀ program ∈ pool.threads, program.Always property) → condition pool thread)
    (schedule : List ℕ) :
    ∀ pool : Pool I σ α, (∀ program ∈ pool.threads, program.Always property) →
      pool.throughout object condition schedule := by
  induction schedule with
  | nil => intro pool _; rfl
  | cons thread rest ih =>
    intro pool hpool
    exact Bool.and_eq_true_iff.mpr ⟨hsafe pool thread hpool, ih _ (pool.always_step object hpool)⟩

/-- An invariant of the state, and what each thread knows about the state. -/
structure Pool.Holds (invariant : σ → Prop) (knows : σ → Prog I α → Prop) (pool : Pool I σ α) :
    Prop where
  state : invariant pool.state
  threads : ∀ (thread : ℕ) (program : Prog I α), pool.threads[thread]? = some program →
    knows pool.state program

section Knows

variable {object : Object I σ} {invariant : σ → Prop} {knows : σ → Prog I α → Prop}
  {allowed : Pool I σ α → ℕ → Bool}

/-- Assumes: a step keeps the invariant and the knowledge of the thread that acts, and an allowed
step keeps the knowledge of the others. Then an allowed step keeps both for the pool. -/
lemma Pool.Holds.step (hown : ∀ state program, invariant state → knows state program →
      invariant (program.advance object state).1 ∧
        knows (program.advance object state).1 (program.advance object state).2)
    (hothers : ∀ (pool : Pool I σ α) (thread other : ℕ) (acting waiting : Prog I α),
      pool.Holds invariant knows → allowed pool thread → other ≠ thread →
      pool.threads[thread]? = some acting → pool.threads[other]? = some waiting →
      knows (acting.advance object pool.state).1 waiting) {pool : Pool I σ α}
    (hpool : pool.Holds invariant knows) (hallowed : allowed pool thread) :
    (pool.step object thread).Holds invariant knows := by
  cases hthread : pool.threads[thread]? with
  | none =>
    have hsame : pool.step object thread = pool := by
      unfold Pool.step
      rw [hthread]
    rw [hsame]
    exact hpool
  | some program =>
    obtain ⟨hstate, hknows⟩ := hown pool.state program hpool.state (hpool.threads thread _ hthread)
    rw [pool.step_of_thread object hthread]
    refine ⟨hstate, fun other waiting hwaiting ↦ ?_⟩
    by_cases hother : other = thread
    · subst hother
      have hrange : other < pool.threads.length := (List.getElem?_eq_some_iff.mp hthread).1
      rw [List.getElem?_set_self hrange] at hwaiting
      obtain rfl := Option.some.inj hwaiting
      exact hknows
    · rw [List.getElem?_set_ne (Ne.symm hother)] at hwaiting
      exact hothers pool thread other program waiting hpool hallowed hother hthread hwaiting

/-- Assumes: allowed steps keep what holds of a pool, and what holds makes a step safe. Under a
schedule of allowed steps every step is safe, and it holds of the pool in the end. -/
lemma Pool.throughout_of_holds {holds : Pool I σ α → Prop} {safe : Pool I σ α → ℕ → Bool}
    (hstep : ∀ pool thread, holds pool → allowed pool thread →
      holds (pool.step object thread))
    (hsafe : ∀ pool thread, holds pool → allowed pool thread → safe pool thread)
    (schedule : List ℕ) :
    ∀ pool : Pool I σ α, holds pool → pool.throughout object allowed schedule →
      pool.throughout object safe schedule ∧ holds (pool.run object schedule) := by
  induction schedule with
  | nil => intro pool hpool _; exact ⟨rfl, hpool⟩
  | cons thread rest ih =>
    intro pool hpool hallowed
    obtain ⟨hfirst, hrest⟩ := Bool.and_eq_true_iff.mp hallowed
    obtain ⟨hsafeRest, hend⟩ := ih _ (hstep pool thread hpool hfirst) hrest
    exact ⟨Bool.and_eq_true_iff.mpr ⟨hsafe pool thread hpool hfirst, hsafeRest⟩, hend⟩

end Knows

lemma Pool.run_done {result : α} (schedule : List ℕ) :
    ∀ pool : Pool I σ α, pool.threads[thread]? = some (.done result) →
      (pool.run object schedule).threads[thread]? = some (.done result) := by
  induction schedule with
  | nil => intro pool hdone; exact hdone
  | cons next rest ih =>
    intro pool hdone
    refine ih _ ?_
    by_cases hnext : thread = next
    · subst hnext
      unfold step
      rw [hdone]
      exact hdone
    · rw [pool.step_other object hnext]
      exact hdone

end Iicp.Concurrent
