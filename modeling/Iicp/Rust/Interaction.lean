import Iicp.Rust.Outcome

/-!
# Calls that talk to their surroundings

An `Interaction` is a call that keeps a state, exchanges messages with its surroundings, and
delivers an outcome. The exchanges are kept in a log, the newest first. What the surroundings answer
may depend on everything that has happened before, so an answer is a function of the log: `ask`
records the exchange, `look` reads something that leaves no trace.

`Guarantees always post call` says what a call does to the log from any state: it only adds events,
the added events have the property `always` however the call ends, and a value that it delivers is
related to them by `post`. `Guarantees.bind` is the rule for sequences. `ErrsOnly` says in the same
way which errors a call can end with, `AddsOnly` which events a call can add, and `Delivers` that a
call does not panic and what it delivers.
-/

namespace Iicp.Rust

/-- A call with a state and a log of events. -/
def Interaction (σ ω ε α : Type) := σ → List ω → Outcome ε α × σ × List ω

namespace Interaction

variable {σ ω ε δ α β : Type} {log : List ω} {state : σ} (value : α)
  {next : α → Interaction σ ω ε β}

/-- Sequencing: an error or a panic ends the call, and what has happened remains. -/
protected def bind (first : Interaction σ ω ε α) (next : α → Interaction σ ω ε β) :
    Interaction σ ω ε β := fun state log ↦
  match first state log with
  | (.ok value, state, log) => next value state log
  | (.err error, state, log) => (.err error, state, log)
  | (.panicked, state, log) => (.panicked, state, log)

instance : Monad (Interaction σ ω ε) where
  pure value := fun state log ↦ (.ok value, state, log)
  bind := Interaction.bind

def ofOutcome (outcome : Outcome ε α) : Interaction σ ω ε α := fun state log ↦ (outcome, state, log)

def fail (error : ε) : Interaction σ ω ε α := ofOutcome (.err error)

/-- Reads something outside that leaves no trace: a clock, a random draw. -/
def look (answer : List ω → α) : Interaction σ ω ε α :=
  fun state log ↦ (.ok (answer log), state, log)

/-- An exchange with the surroundings. -/
def ask (answer : List ω → α) (event : α → ω) : Interaction σ ω ε α :=
  fun state log ↦ (.ok (answer log), state, event (answer log) :: log)

def record (event : ω) : Interaction σ ω ε Unit := fun state log ↦ (.ok (), state, event :: log)

def getState : Interaction σ ω ε σ := fun state log ↦ (.ok state, state, log)

def setState (state : σ) : Interaction σ ω ε Unit := fun _ log ↦ (.ok (), state, log)

/-- Makes a value of an error, so that the caller can go on. -/
def attempt (call : Interaction σ ω δ α) : Interaction σ ω ε (Except δ α) := fun state log ↦
  match call state log with
  | (.ok value, state, log) => (.ok (.ok value), state, log)
  | (.err error, state, log) => (.ok (.error error), state, log)
  | (.panicked, state, log) => (.panicked, state, log)

def mapErr (translate : δ → ε) (call : Interaction σ ω δ α) : Interaction σ ω ε α :=
  fun state log ↦
    match call state log with
    | (.ok value, state, log) => (.ok value, state, log)
    | (.err error, state, log) => (.err (translate error), state, log)
    | (.panicked, state, log) => (.panicked, state, log)

@[simp]
lemma mapErr_log (translate : δ → ε) (call : Interaction σ ω δ α) (state : σ) (log : List ω) :
    (mapErr translate call state log).2.2 = (call state log).2.2 := by
  unfold mapErr
  rcases call state log with ⟨_ | _ | _, after, events⟩ <;> rfl

@[simp]
lemma attempt_log (call : Interaction σ ω δ α) (state : σ) (log : List ω) :
    ((attempt call : Interaction σ ω ε (Except δ α)) state log).2.2 = (call state log).2.2 := by
  unfold attempt
  rcases call state log with ⟨_ | _ | _, after, events⟩ <;> rfl

/-- An attempt at a call that delivers hands on the value. -/
lemma attempt_of_delivers {call : Interaction σ ω δ α} {value : α}
    (h : (call state log).1 = .ok value) :
    (attempt call : Interaction σ ω ε (Except δ α)) state log =
      (.ok (.ok value), (call state log).2) := by
  unfold attempt
  rcases hcall : call state log with ⟨_ | _ | _, after, events⟩ <;> rw [hcall] at h
  · rw [Outcome.ok.inj h]
  · nomatch h
  · nomatch h

lemma pure_apply (state : σ) (log : List ω) :
    (pure value : Interaction σ ω ε α) state log = (.ok value, state, log) := rfl

lemma bind_apply (first : Interaction σ ω ε α) (next : α → Interaction σ ω ε β) (state : σ)
    (log : List ω) : (first >>= next) state log = Interaction.bind first next state log := rfl

variable {first : Interaction σ ω ε α}

lemma bind_of_ok {state' : σ}
    {log' : List ω} {value : α} (h : first state log = (.ok value, state', log')) :
    (first >>= next) state log = next value state' log' := by
  rw [bind_apply, Interaction.bind, h]

lemma bind_of_delivers {value : α} (h : (first state log).1 = .ok value) :
    (first >>= next) state log = next value (first state log).2.1 (first state log).2.2 :=
  bind_of_ok (Prod.ext h rfl)

/-! ### What a call does to the log -/

/-- The call only adds events to the log. They have the property `always`, however the call ends,
and a value that it delivers is related to them by `post`. -/
def Guarantees (always : List ω → Prop) (post : α → List ω → Prop) (call : Interaction σ ω ε α) :
    Prop :=
  ∀ state log, ∃ added, (call state log).2.2 = added ++ log ∧ always added ∧
    ∀ value, (call state log).1 = .ok value → post value added

variable {always before : List ω → Prop} {post mid : α → List ω → Prop} {call : Interaction σ ω ε α}
  {answer : List ω → α}

lemma Guarantees.mono (h : Guarantees before mid call)
    (halways : ∀ added, before added → always added)
    (hpost : ∀ value added, before added → mid value added → post value added) :
    Guarantees always post call := by
  intro state log
  obtain ⟨added, hlog, hbefore, hvalue⟩ := h state log
  exact ⟨added, hlog, halways added hbefore,
    fun value hok ↦ hpost value added hbefore (hvalue value hok)⟩

lemma guarantees_ofOutcome (outcome : Outcome ε α) (hnone : always [])
    (hpost : ∀ value, outcome = .ok value → post value []) :
    Guarantees always post (ofOutcome outcome : Interaction σ ω ε α) :=
  fun _ _ ↦ ⟨[], rfl, hnone, hpost⟩

lemma guarantees_fail (error : ε) (hnone : always []) :
    Guarantees always post (fail error : Interaction σ ω ε α) :=
  guarantees_ofOutcome _ hnone (by simp)

lemma guarantees_pure (hnone : always []) (hpost : post value []) :
    Guarantees always post (pure value : Interaction σ ω ε α) :=
  guarantees_ofOutcome (.ok value) hnone fun _ h ↦ Outcome.ok.inj h ▸ hpost

section Sequences

variable {post : β → List ω → Prop}

/-- After a computation without surroundings, only its value is new. -/
lemma guarantees_ofOutcome_bind {outcome : Outcome ε α} (hnone : always [])
    (hnext : ∀ value, outcome = .ok value → Guarantees always post (next value)) :
    Guarantees always post (ofOutcome outcome >>= next) := by
  intro state log
  cases outcome with
  | ok value => exact hnext value rfl state log
  | err | panicked => exact ⟨[], rfl, hnone, fun _ h ↦ nomatch h⟩

/-- What is read outside is what was there at some time. -/
lemma guarantees_look_bind (hnext : ∀ log, Guarantees always post (next (answer log))) :
    Guarantees always post (look answer >>= next) :=
  fun state log ↦ hnext log state log

lemma guarantees_getState_bind {next : σ → Interaction σ ω ε β}
    (hnext : ∀ value, Guarantees always post (next value)) :
    Guarantees always post (getState >>= next) :=
  fun state log ↦ hnext state state log

/-- After an exchange, its event is there, and the answer may be anything. -/
lemma guarantees_ask_bind {event : α → ω}
    (hnext : ∀ value, Guarantees (fun more ↦ always (more ++ [event value]))
      (fun result more ↦ post result (more ++ [event value])) (next value)) :
    Guarantees always post (ask answer event >>= next) := by
  intro state log
  obtain ⟨more, hlog, halways, hpost⟩ :=
    hnext (answer log) state (event (answer log) :: log)
  exact ⟨more ++ [event (answer log)], by rw [List.append_assoc]; exact hlog, halways, hpost⟩

lemma guarantees_record_bind {event : ω} {next : Unit → Interaction σ ω ε β}
    (hnext : Guarantees (fun more ↦ always (more ++ [event]))
      (fun result more ↦ post result (more ++ [event])) (next ())) :
    Guarantees always post (record event >>= next) :=
  guarantees_ask_bind fun _ ↦ hnext

/-- A sequence: what the second call adds comes after what the first has added. -/
lemma Guarantees.bind (hfirst : Guarantees before mid call)
    (hnext : ∀ value added, before added → mid value added →
      Guarantees (fun more ↦ always (more ++ added)) (fun result more ↦ post result (more ++ added))
        (next value)) (halways : ∀ added, before added → always added) :
    Guarantees always post (call >>= next) := by
  intro state log
  obtain ⟨added, hlog, hbefore, hmid⟩ := hfirst state log
  rw [bind_apply, Interaction.bind]
  rcases hcall : call state log with ⟨_ | _ | _, state', log'⟩ <;> rw [hcall] at hlog hmid <;>
    obtain rfl : log' = added ++ log := hlog
  · rename_i value
    obtain ⟨more, hmore, hall, hpost⟩ := hnext value added hbefore (hmid value rfl) state' (added ++ log)
    refine ⟨more ++ added, ?_, hall, hpost⟩
    rw [List.append_assoc, ← hmore]
  · exact ⟨added, rfl, halways added hbefore, by simp⟩
  · exact ⟨added, rfl, halways added hbefore, by simp⟩

end Sequences

/-! ### What a call fails with -/

def ErrsOnly (possible : ε → Prop) (call : Interaction σ ω ε α) : Prop :=
  ∀ state log error, (call state log).1 = .err error → possible error

section Errors

variable {possible : ε → Prop}

lemma errsOnly_of_delivers (h : ∀ state log, ∃ value, (call state log).1 = .ok value) :
    ErrsOnly possible call := by
  intro state log error herror
  obtain ⟨_, hvalue⟩ := h state log
  rw [hvalue] at herror
  nomatch herror

lemma errsOnly_require {error : ε} (condition : Bool) (h : possible error) :
    ErrsOnly possible (ofOutcome (Outcome.require condition error) : Interaction σ ω ε Unit) := by
  intro state log found hfound
  cases condition with
  | true => nomatch hfound
  | false =>
    obtain rfl : error = found := Outcome.err.inj hfound
    exact h

lemma errsOnly_okOr {error : ε} (value : Option α) (h : possible error) :
    ErrsOnly possible (ofOutcome (Outcome.okOr error value) : Interaction σ ω ε α) := by
  intro state log found hfound
  cases value with
  | some => nomatch hfound
  | none =>
    obtain rfl : error = found := Outcome.err.inj hfound
    exact h

lemma errsOnly_ofOutcome_mapErr {translate : δ → ε} (outcome : Outcome δ α)
    (h : ∀ error, possible (translate error)) :
    ErrsOnly possible (ofOutcome (Outcome.mapErr translate outcome) : Interaction σ ω ε α) := by
  intro state log found hfound
  cases outcome with
  | ok | panicked => nomatch hfound
  | err error =>
    obtain rfl : translate error = found := Outcome.err.inj hfound
    exact h error

lemma ErrsOnly.bind (hfirst : ErrsOnly possible call)
    (hnext : ∀ value, ErrsOnly possible (next value)) : ErrsOnly possible (call >>= next) := by
  intro state log error herror
  rw [bind_apply, Interaction.bind] at herror
  rcases hcall : call state log with ⟨_ | _ | _, state', log'⟩ <;> rw [hcall] at herror
  · rename_i value
    exact hnext value state' log' error herror
  · rename_i found
    obtain rfl : found = error := Outcome.err.inj herror
    exact hfirst state log found (by rw [hcall])
  · nomatch herror

lemma errsOnly_bind_of_delivers (hfirst : ∀ state log, ∃ value, (call state log).1 = .ok value)
    (hnext : ∀ value, ErrsOnly possible (next value)) : ErrsOnly possible (call >>= next) :=
  (errsOnly_of_delivers hfirst).bind hnext

lemma errsOnly_mapErr {call : Interaction σ ω δ α} {translate : δ → ε}
    (h : ∀ error, possible (translate error)) : ErrsOnly possible (mapErr translate call) := by
  intro state log error herror
  unfold mapErr at herror
  rcases hcall : call state log with ⟨_ | _ | _, state', log'⟩ <;> rw [hcall] at herror
  · nomatch herror
  · rename_i found
    obtain rfl : translate found = error := Outcome.err.inj herror
    exact h found
  · nomatch herror

end Errors

/-- After an attempt, either the value or the error is known. -/
lemma Guarantees.attempt {call : Interaction σ ω δ α} {possible : δ → Prop}
    (h : Guarantees always post call) (herrs : ErrsOnly possible call) :
    Guarantees always (fun result added ↦ (∀ value, result = .ok value → post value added) ∧
        ∀ error, result = .error error → possible error)
      (Interaction.attempt call : Interaction σ ω ε (Except δ α)) := by
  intro state log
  obtain ⟨added, hlog, halways, hpost⟩ := h state log
  have hpossible := herrs state log
  unfold Interaction.attempt
  rcases hcall : call state log with ⟨_ | _ | _, state', log'⟩ <;>
    rw [hcall] at hlog hpost hpossible
  · refine ⟨added, hlog, halways, ?_⟩
    rintro _ ⟨⟩
    exact ⟨fun value hvalue ↦ hpost value (congrArg Outcome.ok (Except.ok.inj hvalue)), by simp⟩
  · refine ⟨added, hlog, halways, ?_⟩
    rintro _ ⟨⟩
    exact ⟨by simp, fun error herror ↦
      hpossible error (congrArg Outcome.err (Except.error.inj herror))⟩
  · exact ⟨added, hlog, halways, by simp⟩

lemma Guarantees.mapErr {call : Interaction σ ω δ α} (translate : δ → ε)
    (h : Guarantees always post call) :
    Guarantees always post (Interaction.mapErr translate call) := by
  intro state log
  obtain ⟨added, hlog, halways, hpost⟩ := h state log
  unfold Interaction.mapErr
  rcases hcall : call state log with ⟨_ | _ | _, state', log'⟩ <;> rw [hcall] at hlog hpost
  · refine ⟨added, hlog, halways, ?_⟩
    rintro _ ⟨⟩
    exact hpost _ rfl
  · exact ⟨added, hlog, halways, by simp⟩
  · exact ⟨added, hlog, halways, by simp⟩

/-! ### Which events a call adds -/

def AddsOnly (possible : ω → Prop) (call : Interaction σ ω ε α) : Prop :=
  ∀ state log, ∃ added, (call state log).2.2 = added ++ log ∧ ∀ event ∈ added, possible event

section Adds

variable {possible : ω → Prop}

lemma addsOnly_ofOutcome (outcome : Outcome ε α) :
    AddsOnly possible (ofOutcome outcome : Interaction σ ω ε α) :=
  fun _ _ ↦ ⟨[], rfl, nofun⟩

/-- After a computation without surroundings, its value is known. -/
lemma addsOnly_ofOutcome_bind {outcome : Outcome ε α}
    (hnext : ∀ value, outcome = .ok value → AddsOnly possible (next value)) :
    AddsOnly possible (ofOutcome outcome >>= next) := by
  intro state log
  cases outcome with
  | ok value => exact hnext value rfl state log
  | err | panicked => exact ⟨[], rfl, nofun⟩

lemma AddsOnly.mono {likely : ω → Prop} (h : AddsOnly likely call)
    (himp : ∀ event, likely event → possible event) : AddsOnly possible call := by
  intro state log
  obtain ⟨added, hlog, hadded⟩ := h state log
  exact ⟨added, hlog, fun event hevent ↦ himp event (hadded event hevent)⟩

lemma addsOnly_pure : AddsOnly possible (pure value : Interaction σ ω ε α) :=
  fun _ _ ↦ ⟨[], rfl, nofun⟩

lemma addsOnly_fail (error : ε) : AddsOnly possible (fail error : Interaction σ ω ε α) :=
  fun _ _ ↦ ⟨[], rfl, nofun⟩

lemma addsOnly_getState : AddsOnly possible (getState : Interaction σ ω ε σ) :=
  fun _ _ ↦ ⟨[], rfl, nofun⟩

lemma addsOnly_setState (state : σ) : AddsOnly possible (setState state : Interaction σ ω ε Unit) :=
  fun _ _ ↦ ⟨[], rfl, nofun⟩

lemma addsOnly_ask {event : α → ω} (hevent : ∀ value, possible (event value)) :
    AddsOnly possible (ask answer event : Interaction σ ω ε α) := by
  intro state log
  refine ⟨[event (answer log)], rfl, fun found hfound ↦ ?_⟩
  rw [List.mem_singleton.mp hfound]
  exact hevent _

lemma addsOnly_iff_guarantees :
    AddsOnly possible call ↔
      Guarantees (fun added ↦ ∀ event ∈ added, possible event) (fun _ _ ↦ True) call := by
  refine forall₂_congr fun state log ↦ exists_congr fun added ↦ and_congr_right fun _ ↦ ?_
  exact (and_iff_left fun _ _ ↦ trivial).symm

/-- What has happened remains, whatever comes after. -/
lemma mem_bind {event : ω} (hmem : event ∈ (call state log).2.2)
    (hnext : ∀ value, AddsOnly (fun _ ↦ True) (next value)) :
    event ∈ ((call >>= next) state log).2.2 := by
  rw [bind_apply, Interaction.bind]
  rcases hcall : call state log with ⟨_ | _ | _, state', log'⟩ <;> rw [hcall] at hmem
  · rename_i value
    obtain ⟨_, hmore, -⟩ := hnext value state' log'
    rw [hmore]
    exact List.mem_append_right _ hmem
  · exact hmem
  · exact hmem

lemma AddsOnly.of_mem {event : ω} (h : AddsOnly possible call)
    (hmem : event ∈ (call state []).2.2) : possible event := by
  obtain ⟨added, hlog, hadded⟩ := h state []
  rw [hlog, List.append_nil] at hmem
  exact hadded event hmem

lemma AddsOnly.bind (hfirst : AddsOnly possible call)
    (hnext : ∀ value, AddsOnly possible (next value)) : AddsOnly possible (call >>= next) := by
  refine addsOnly_iff_guarantees.mpr ((addsOnly_iff_guarantees.mp hfirst).bind ?_ fun _ h ↦ h)
  intro value added hadded _
  refine (addsOnly_iff_guarantees.mp (hnext value)).mono ?_ fun _ _ _ h ↦ h
  exact fun more hmore ↦ List.forall_mem_append.mpr ⟨hmore, hadded⟩

lemma AddsOnly.attempt {call : Interaction σ ω δ α} (hcalls : AddsOnly possible call) :
    AddsOnly possible (Interaction.attempt call : Interaction σ ω ε (Except δ α)) := by
  intro state log
  obtain ⟨added, hlog, hadded⟩ := hcalls state log
  unfold Interaction.attempt
  rcases hcall : call state log with ⟨_ | _ | _, state', log'⟩ <;> rw [hcall] at hlog <;>
    exact ⟨added, hlog, hadded⟩

end Adds

/-! ### Calls that do not panic -/

/-- The call does not panic, and the values that it delivers have a property. -/
def Delivers (likely : α → Prop) (call : Interaction σ ω ε α) : Prop :=
  ∀ state log, (call state log).1.Returns ∧ ∀ value, (call state log).1 = .ok value → likely value

section Delivers

variable {likely : α → Prop}

lemma delivers_of_ok (h : ∀ state log, ∃ value, (call state log).1 = .ok value ∧ likely value) :
    Delivers likely call := by
  intro state log
  obtain ⟨value, hvalue, hlikely⟩ := h state log
  rw [hvalue]
  exact ⟨Outcome.returns_ok _, fun _ h ↦ Outcome.ok.inj h ▸ hlikely⟩

lemma delivers_ofOutcome {outcome : Outcome ε α} (hreturns : outcome.Returns)
    (hlikely : ∀ value, outcome = .ok value → likely value) :
    Delivers likely (ofOutcome outcome : Interaction σ ω ε α) :=
  fun _ _ ↦ ⟨hreturns, hlikely⟩

lemma delivers_fail (error : ε) : Delivers likely (fail error : Interaction σ ω ε α) :=
  delivers_ofOutcome (Outcome.returns_err _) (by simp)

lemma delivers_pure (h : likely value) : Delivers likely (pure value : Interaction σ ω ε α) :=
  delivers_of_ok fun _ _ ↦ ⟨value, rfl, h⟩

lemma Delivers.bind {likely : β → Prop} {mid : α → Prop} (hfirst : Delivers mid call)
    (hnext : ∀ value, mid value → Delivers likely (next value)) :
    Delivers likely (call >>= next) := by
  intro state log
  obtain ⟨hreturns, hmid⟩ := hfirst state log
  rw [bind_apply, Interaction.bind]
  rcases hcall : call state log with ⟨_ | _ | _, state', log'⟩ <;> rw [hcall] at hreturns hmid
  · rename_i value
    exact hnext value (hmid value rfl) state' log'
  · exact ⟨Outcome.returns_err _, by simp⟩
  · exact absurd rfl hreturns

lemma delivers_bind_of_ok {likely : β → Prop}
    (hfirst : ∀ state log, ∃ value, (call state log).1 = .ok value)
    (hnext : ∀ value, Delivers likely (next value)) : Delivers likely (call >>= next) := by
  have hall : Delivers (fun _ ↦ True) call := by
    refine delivers_of_ok fun state log ↦ ?_
    obtain ⟨value, hvalue⟩ := hfirst state log
    exact ⟨value, hvalue, trivial⟩
  exact hall.bind fun value _ ↦ hnext value

/-- After a computation without surroundings, its value is known. -/
lemma delivers_ofOutcome_bind {outcome : Outcome ε α} {likely : β → Prop}
    (hreturns : outcome.Returns) (hnext : ∀ value, outcome = .ok value → Delivers likely (next value)) :
    Delivers likely (ofOutcome outcome >>= next) :=
  (delivers_ofOutcome hreturns fun _ h ↦ h).bind hnext

lemma Delivers.mapErr {call : Interaction σ ω δ α} (translate : δ → ε) (h : Delivers likely call) :
    Delivers likely (Interaction.mapErr translate call) := by
  intro state log
  obtain ⟨hreturns, hlikely⟩ := h state log
  unfold Interaction.mapErr
  rcases hcall : call state log with ⟨_ | _ | _, state', log'⟩ <;> rw [hcall] at hreturns hlikely
  · exact ⟨Outcome.returns_ok _, fun _ hvalue ↦ hlikely _ (congrArg _ (Outcome.ok.inj hvalue))⟩
  · exact ⟨Outcome.returns_err _, by simp⟩
  · exact absurd rfl hreturns

end Delivers

end Interaction

end Iicp.Rust
