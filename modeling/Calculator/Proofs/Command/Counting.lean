import Mathlib.Algebra.Ring.Nat
import Calculator.Proofs.Command.Course

/-!
The usage of commands counts every call once, when it ends, whatever comes of it: through any course
the record of a name is the tally of its calls that have ended.
-/

namespace Calculator.Command

open Time (Clock)

/-- The record of a name whose calls these are: their number, the time they took together, and the time
on the wall when the latest of them ended. -/
inductive Tally (clock : Clock) (calls : List Call) : Option Runs → Prop where
  | never (h : calls = []) : Tally clock calls none
  | counted (latest : Call) (hm : latest ∈ calls) (hl : ∀ call ∈ calls, call.stop ≤ latest.stop) :
      Tally clock calls
        (some ⟨calls.length, (calls.map (Call.elapsed clock)).sum, latest.stamp clock⟩)

/-- Each name has the record of its calls. -/
def Counted (clock : Clock) (calls : List Call) (usage : Usage) : Prop :=
  ∀ name, Tally clock (calls.filter (·.name = name)) (usage.get? name)

variable {clock now : Clock} {calls : List Call} {usage : Usage} {call : Call}

theorem Tally.record {record : Option Runs} (h : Tally clock calls record)
    (hlast : ∀ earlier ∈ calls, earlier.stop ≤ call.stop) :
    Tally clock (calls ++ [call])
      (some (Runs.add (call.elapsed clock) (call.stamp clock) record)) := by
  have hm : call ∈ calls ++ [call] := List.mem_append_right _ List.mem_cons_self
  have hl : ∀ other ∈ calls ++ [call], other.stop ≤ call.stop := by
    intro other ho
    rcases List.mem_append.mp ho with ho | ho
    · exact hlast other ho
    · exact Nat.le_of_eq (congrArg Call.stop (List.mem_singleton.mp ho))
  have hnext : Tally clock (calls ++ [call]) _ := .counted call hm hl
  rw [List.length_append, List.map_append, List.sum_append] at hnext
  cases h with
  | never hnone =>
    subst hnone
    simpa [Runs.add] using hnext
  | counted latest _ _ => simpa [Runs.add] using hnext

theorem Counted.record (h : Counted clock calls usage)
    (hlast : ∀ earlier ∈ calls, earlier.stop ≤ call.stop) :
    Counted clock (calls ++ [call])
      (usage.record call.name (call.elapsed clock) (call.stamp clock)) := by
  intro name
  rw [List.filter_append]
  by_cases hn : call.name = name
  · subst hn
    have hown : [call].filter (fun other => decide (other.name = call.name)) = [call] := by simp
    rw [hown, Usage.get?_record_self]
    exact (h call.name).record fun earlier he => hlast earlier (List.mem_filter.mp he).1
  · have hother : [call].filter (fun other => decide (other.name = name)) = [] := by simp [hn]
    rw [hother, List.append_nil, Usage.get?_record_of_ne _ _ _ (Ne.symm hn)]
    exact h name

/-- A usage counts the calls that have ended, and the clock has been looked at since. -/
structure Ledger (clock : Clock) (calls : List Call) (now : Clock) (usage : Usage) : Prop where
  wall_eq : now.wall = clock.wall
  running_eq : now.running = clock.running
  counted : Counted clock calls usage
  past : ∀ call ∈ calls, call.stop < now.looks

namespace Ledger

theorem look (h : Ledger clock calls now usage) : Ledger clock calls now.look.2 usage :=
  ⟨h.wall_eq, h.running_eq, h.counted, fun call hm => Nat.lt_succ_of_lt (h.past call hm)⟩

/-- A call that ends with a look at the clock is counted from then on. -/
theorem record (h : Ledger clock calls now usage) (name : String) (start : Nat) :
    Ledger clock (calls ++ [⟨name, start, now.looks⟩]) now.look.2
      (usage.record name (now.running now.looks - clock.running start) now.look.2.now) := by
  let call : Call := ⟨name, start, now.looks⟩
  have helapsed : now.running now.looks - clock.running start = call.elapsed clock := by
    rw [h.running_eq]
    rfl
  have hstamp : now.look.2.now = call.stamp clock := by
    change now.wall (now.looks + 1) = _
    rw [h.wall_eq]
    rfl
  refine ⟨h.wall_eq, h.running_eq, ?_, fun other hm => ?_⟩
  · have hlast : ∀ earlier ∈ calls, earlier.stop ≤ call.stop := fun earlier he =>
      Nat.le_of_lt (h.past earlier he)
    rw [helapsed, hstamp]
    exact h.counted.record hlast
  · rcases List.mem_append.mp hm with hm | hm
    · exact Nat.lt_succ_of_lt (h.past other hm)
    · rw [List.mem_singleton.mp hm]
      exact Nat.lt_succ_self _

end Ledger

/-- A course that keeps the ledger: what is seen in it is counted, and its calls take no more time than
passes. -/
structure Sound (clock : Clock) (ended : List Call) (begun : Clock) (course : Course) (now : Clock)
    (usage : Usage) : Prop where
  ledger : Ledger clock (ended ++ course.ends) now usage
  seen : ∀ sight ∈ course.seen ended, Counted clock sight.1 sight.2
  looks : begun.looks ≤ now.looks
  time : clock.Forward → clock.running begun.looks + (course.calls.map (Call.elapsed clock)).sum ≤
    clock.running now.looks
  families : clock.Forward → ∀ family ∈ course.families,
    (family.2.map (Call.elapsed clock)).sum ≤ family.1.elapsed clock

namespace Sound

variable {ended : List Call} {begun : Clock} {course first next : Course}

theorem done (h : Ledger clock ended now usage) : Sound clock ended now .done now usage where
  ledger := by
    rw [Course.ends, List.append_nil]
    exact h
  seen := fun _ hs => absurd hs List.not_mem_nil
  looks := Nat.le_refl _
  time := fun _ => Nat.le_refl _
  families := fun _ _ hf => absurd hf List.not_mem_nil

theorem looked {seen : Usage} (hc : Counted clock ended seen)
    (h : Sound clock ended begun course now usage) :
    Sound clock ended begun (.looked seen course) now usage where
  ledger := h.ledger
  seen := List.forall_mem_cons.mpr ⟨hc, h.seen⟩
  looks := h.looks
  time := h.time
  families := h.families

theorem missed (name : String) (h : Sound clock ended begun course now usage) :
    Sound clock ended begun (.missed name course) now usage :=
  ⟨h.ledger, h.seen, h.looks, h.time, h.families⟩

theorem append {middle : Clock} {before : Usage} (hf : Sound clock ended begun first middle before)
    (hn : Sound clock (ended ++ first.ends) middle next now usage) :
    Sound clock ended begun (first.append next) now usage where
  ledger := by
    rw [Course.ends_append, ← List.append_assoc]
    exact hn.ledger
  seen := by
    rw [Course.seen_append]
    exact List.forall_mem_append.mpr ⟨hf.seen, hn.seen⟩
  looks := Nat.le_trans hf.looks hn.looks
  time := fun hforward => by
    have hft := hf.time hforward
    have hnt := hn.time hforward
    rw [Course.calls_append, List.map_append, List.sum_append]
    omega
  families := fun hforward => by
    rw [Course.families_append]
    exact List.forall_mem_append.mpr ⟨hf.families hforward, hn.families hforward⟩

/-- A call around a course, between a look at the clock before it and one after it. -/
theorem ran (name : String) {inside : Course} (hb : begun.running = clock.running)
    (h : Sound clock ended begun.look.2 inside now usage) :
    Sound clock ended begun (.ran ⟨name, begun.looks, now.looks⟩ inside .done) now.look.2
      (usage.record name (now.running now.looks - begun.running begun.looks) now.look.2.now) where
  ledger := by
    have hrecord := h.ledger.record name begun.looks
    rw [List.append_assoc, ← hb] at hrecord
    exact hrecord
  seen := by
    rw [Course.seen]
    exact List.forall_mem_append.mpr ⟨h.seen, fun _ hs => absurd hs List.not_mem_nil⟩
  looks := Nat.le_trans (Nat.le_succ _) (Nat.le_succ_of_le h.looks)
  time := fun hforward => by
    have hle : begun.looks ≤ now.looks := Nat.le_of_succ_le h.looks
    have hstart := hforward _ _ hle
    have hstop := hforward now.looks (now.looks + 1) (Nat.le_succ _)
    change clock.running begun.looks + (clock.running now.looks - clock.running begun.looks + 0) ≤
      clock.running (now.looks + 1)
    omega
  families := fun hforward => by
    -- The look that starts the call comes before all looks inside it.
    have hinside := h.time hforward
    have hstart := hforward begun.looks (begun.looks + 1) (Nat.le_succ _)
    have hlooks : begun.look.2.looks = begun.looks + 1 := rfl
    rw [hlooks] at hinside
    rw [Course.families]
    refine List.forall_mem_cons.mpr ⟨?_, List.forall_mem_append.mpr
      ⟨h.families hforward, fun _ hf => absurd hf List.not_mem_nil⟩⟩
    change (inside.calls.map (Call.elapsed clock)).sum ≤
      clock.running now.looks - clock.running begun.looks
    omega

end Sound

namespace Dispatcher

/-- A dispatch keeps the ledger through the course that is told of it. -/
def Keeps (clock : Clock) (dispatch : Dispatch) (tell : Teller) : Prop :=
  ∀ policy name args (state : State) (ended : List Call),
    Ledger clock ended state.clock state.usage →
    Sound clock ended state.clock (tell policy name args state)
      (dispatch policy name args state).2.clock (dispatch policy name args state).2.usage

variable {inner : Option (Dispatch × Teller)} {ended : List Call}

theorem sound_follow (dispatcher : Dispatcher) (hi : ∀ pair ∈ inner, Keeps clock pair.1 pair.2)
    (script : Script) (state : State) (h : Ledger clock ended state.clock state.usage) :
    Sound clock ended state.clock (dispatcher.scriptCourse inner script state)
      (dispatcher.follow (inner.map Prod.fst) script state).2.clock
      (dispatcher.follow (inner.map Prod.fst) script state).2.usage := by
  -- What has ended before grows with every dispatch that the script asks for.
  induction script generalizing state ended with
  | finish outcome => exact .done h
  | look next ih => exact .looked h.counted (ih _ _ state h)
  | change desk next ih => exact ih { state with desk := desk } h
  | ask policy name args next ih =>
    cases inner with
    | none => exact .done h
    | some pair =>
      obtain ⟨dispatch, tell⟩ := pair
      have hfirst := hi _ rfl policy name args state ended h
      exact hfirst.append (ih _ _ hfirst.ledger)

theorem sound_invoke (dispatcher : Dispatcher) (hi : ∀ pair ∈ inner, Keeps clock pair.1 pair.2)
    (run : Log.Run) (script : Script) (state : State) (h : Ledger clock ended state.clock state.usage) :
    Sound clock ended state.clock (dispatcher.callCourse inner run script state)
      (dispatcher.invoke (inner.map Prod.fst) run script state).2.clock
      (dispatcher.invoke (inner.map Prod.fst) run script state).2.usage := by
  let begun : State := { state with clock := state.clock.look.2 }
  have hinside := dispatcher.sound_follow hi script
    (begun.within (run :: begun.desk.runs)) h.look
  exact hinside.ran run.command h.running_eq

theorem keeps_step (dispatcher : Dispatcher) (hi : ∀ pair ∈ inner, Keeps clock pair.1 pair.2) :
    Keeps clock (dispatcher.step (inner.map Prod.fst)) (dispatcher.stepCourse inner) := by
  intro policy name args state ended h
  cases hc : dispatcher.commands.get? name with
  | none =>
    rw [step_of_get?_eq_none hc]
    simp only [stepCourse, hc]
    exact (Sound.done h).missed name
  | some command =>
    have hinvoke := dispatcher.sound_invoke hi ⟨name, args.length⟩ (command args) state h
    rw [step_of_get? hc]
    dsimp only
    rw [report_clock, report_usage]
    simp only [stepCourse, hc]
    exact hinvoke

theorem keeps_dispatch (dispatcher : Dispatcher) (clock : Clock) (depth : Nat) :
    Keeps clock (dispatcher.dispatch depth) (dispatcher.course depth) := by
  induction depth with
  | zero =>
    have hnone : ∀ pair ∈ (none : Option (Dispatch × Teller)), Keeps clock pair.1 pair.2 :=
      fun _ h => nomatch h
    exact dispatcher.keeps_step hnone
  | succ depth ih =>
    have hinner : ∀ pair ∈ some (dispatcher.dispatch depth, dispatcher.course depth),
        Keeps clock pair.1 pair.2 := by
      rintro _ ⟨⟩
      exact ih
    exact dispatcher.keeps_step hinner

end Dispatcher

namespace Event

theorem sound_apply (depth : Nat) (event : Event) (world : Dispatcher × State) {ended : List Call}
    (h : Ledger clock ended world.2.clock world.2.usage) :
    Sound clock ended world.2.clock (event.course depth world) (event.apply depth world).2.clock
      (event.apply depth world).2.usage := by
  obtain ⟨dispatcher, state⟩ := world
  cases event with
  | file name command => exact .done h
  | supply operations environment host desk => exact .done h
  | dispatch policy name args =>
    exact dispatcher.keeps_dispatch clock depth policy name args state ended h

theorem sound_applyAll (depth : Nat) (events : List Event) (world : Dispatcher × State)
    {ended : List Call} (h : Ledger clock ended world.2.clock world.2.usage) :
    Sound clock ended world.2.clock (courseAll depth events world) (applyAll depth events world).2.clock
      (applyAll depth events world).2.usage := by
  induction events generalizing world ended with
  | nil => exact .done h
  | cons event events ih =>
    have hone := sound_apply depth event world h
    exact hone.append (ih (event.apply depth world) hone.ledger)

end Event

theorem counted_nil (clock : Clock) : Counted clock [] {} := fun _ => .never rfl

/-- From an empty usage on, whatever is filed and dispatched: the record of each name is the tally of its
calls that have ended, at the end and whenever a command looks; a call takes no less time than the calls
it makes; and the names of all records are listed in increasing order. -/
theorem usage_counts_calls (depth : Nat) (dispatcher : Dispatcher) (desk : Desk) (clock : Clock)
    (hclock : clock.Forward) (events : List Event) :
    let world : Dispatcher × State := (dispatcher, { desk := desk, clock := clock })
    let course := Event.courseAll depth events world
    let usage := (Event.applyAll depth events world).2.usage
    Counted clock course.ends usage ∧
      (∀ sight ∈ course.seen [], Counted clock sight.1 sight.2) ∧
      (∀ family ∈ course.families,
        (family.2.map (Call.elapsed clock)).sum ≤ family.1.elapsed clock) ∧
      (usage.all.Pairwise fun one other => one.1 < other.1) ∧
      ∀ name runs, (name, runs) ∈ usage.all ↔ usage.get? name = some runs := by
  intro world course usage
  have hstart : Ledger clock [] world.2.clock world.2.usage :=
    ⟨rfl, rfl, counted_nil clock, fun _ hm => absurd hm List.not_mem_nil⟩
  have hsound := Event.sound_applyAll depth events world hstart
  exact ⟨hsound.ledger.counted, hsound.seen, hsound.families hclock, usage.runs.sorted,
    fun _ _ => Register.get?_eq_some_iff.symm⟩

/-- A command that asks for another one and then breaks off. -/
def failing (name : String) : Command := fun _ =>
  .ask .checked name [] fun _ => .finish (.error (.fault .unexplained))

def blankDesk : Desk := { history := { defaultPath := "" }, files := {} }

/-- A command that breaks off and the one inside it are both counted; the clock goes forward by 10. -/
theorem usage_counts_failing_call :
    let events : List Event :=
      [.file "outer" (failing "inner"), .file "inner" (.saying fun _ _ _ => ""),
       .dispatch .unchecked "outer" []]
    let clock := Clock.still 5 10
    let world : Dispatcher × State :=
      ({ host := ⟨"", "", "", "", ""⟩ }, { desk := blankDesk, clock := clock })
    let course := Event.courseAll 1 events world
    let usage := (Event.applyAll 1 events world).2.usage
    course.ends = [⟨"inner", 1, 2⟩, ⟨"outer", 0, 3⟩] ∧
      usage.all = [("inner", ⟨1, 10, 5⟩), ("outer", ⟨1, 30, 5⟩)] ∧
      Counted clock course.ends usage ∧
      ∀ family ∈ course.families,
        (family.2.map (Call.elapsed clock)).sum ≤ family.1.elapsed clock := by
  intro events clock world course usage
  have hends : course.ends = [⟨"inner", 1, 2⟩, ⟨"outer", 0, 3⟩] := by decide +kernel
  have husage : usage.all = [("inner", ⟨1, 10, 5⟩), ("outer", ⟨1, 30, 5⟩)] := by decide +kernel
  have hcounted := usage_counts_calls 1 { host := ⟨"", "", "", "", ""⟩ } blankDesk clock
    (Time.Clock.forward_still 5 10) events
  exact ⟨hends, husage, hcounted.1, hcounted.2.2.1⟩

end Calculator.Command
