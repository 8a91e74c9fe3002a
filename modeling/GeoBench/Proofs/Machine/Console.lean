import GeoBench.Proofs.Machine.Moves

/-!
# What is printed

The texts on standard output are told from the record of a session. They come from the session, by
moves that print, and from the programs that it calls. A program that is called for its output has
it captured; if the runner keeps to that, what was printed is what the moves of the session print.

## Own words

A program that is called in the foreground prints what it likes, and nothing can be said of that. So
what is told of the console holds for sessions that call for outputs only, whose moves let no other
text come out than their own (`Move.IsOwnWords`), and for runners that keep what they capture to
themselves.

## Main results

* `Runner.captures_dryRun`, `Runner.captures_scripted` — runners that capture outputs.
* `Move.printed_replay` — what some moves print, in order, by induction on them.
-/

namespace GeoBench.Machine

variable {σ : Type}

/-! ### Printed texts -/

/-- The text that an utterance puts on standard output. -/
def Utterance.print? : Utterance → Option String
  | .printed text => some text
  | _ => none

/-- The text that an event puts on standard output. -/
def Event.print? : Event → Option String
  | .said u => u.print?
  | _ => none

/-- The texts that were **printed** in the course of some events, in order. -/
def printed (es : List Event) : List String :=
  es.filterMap Event.print?

/-- What is printed comes out in order. -/
theorem printed_append (es fs : List Event) : printed (es ++ fs) = printed es ++ printed fs :=
  List.filterMap_append

/-- A runner that **captures** the outputs that it is asked for: nothing is printed meanwhile. -/
def Runner.Captures (runner : Runner σ) : Prop :=
  ∀ s i state t, ∀ u ∈ (runner.call s .output i state t).meanwhile, u.print? = none

/-- A dry run prints nothing itself. -/
theorem Runner.captures_dryRun : (dryRun : Runner σ).Captures := by
  intro s i state t u hu
  rw [List.mem_singleton.mp hu]
  rfl

/-- A run by a script prints nothing itself. -/
theorem Runner.captures_scripted : scripted.Captures :=
  fun _ _ _ _ _ hu => absurd hu List.not_mem_nil

/-- A captured call prints nothing. -/
theorem Runner.Captures.printed_afterCall {runner : Runner σ} (h : runner.Captures)
    (i : Invocation) (w : World σ) :
    ∃ new, (Session.afterCall runner .output i w).events = w.events ++ new ∧ printed new = [] := by
  refine ⟨_, Session.events_perform runner .output i w, ?_⟩
  rw [printed, List.filterMap_eq_nil_iff]
  intro e he
  rcases List.mem_append.mp he with he | he
  · obtain ⟨u, hu, rfl⟩ := List.mem_map.mp he
    exact h _ _ _ _ u hu
  · rw [List.mem_singleton.mp he]
    rfl

/-! ### Moves that print -/

namespace Move

/-- The text that a move itself **prints**. -/
def print? : Move → Option String
  | say u => u.print?
  | _ => none

/-- The texts that some moves themselves print, in order. -/
def prints (ms : List Move) : List String :=
  ms.filterMap print?

/-- The prints of moves one after the other. -/
theorem prints_append (ms ns : List Move) : prints (ms ++ ns) = prints ms ++ prints ns :=
  List.filterMap_append

/-- Moves without a print leave the console as it is. -/
theorem prints_eq_nil {ms : List Move} (h : ∀ m ∈ ms, m.print? = none) : prints ms = [] :=
  List.filterMap_eq_nil_iff.mpr h

/-- A move that lets **no other** text come out than its own, if outputs are captured. -/
def IsOwnWords : Move → Prop
  | pass _ _ _ => False
  | call mode _ => mode = .output
  | _ => True

/-- What a single move prints. -/
theorem printed_after {runner : Runner σ} (hcaptures : runner.Captures) {m : Move}
    (h : m.IsOwnWords) (w : World σ) :
    ∃ new, (m.after runner w).events = w.events ++ new ∧ printed new = prints [m] := by
  cases m with
  | call mode i =>
      obtain rfl : mode = .output := h
      exact hcaptures.printed_afterCall i w
  | pass => exact absurd h id
  | say u => exact ⟨[.said u], events_after nofun, by cases u <;> rfl⟩
  | makeAll | write | copy | remove => exact ⟨[], events_after nofun, rfl⟩

/-- **What some moves print.** The induction is on the moves. -/
theorem printed_replay {runner : Runner σ} (hcaptures : runner.Captures) {ms : List Move}
    (h : ∀ m ∈ ms, m.IsOwnWords) (w : World σ) :
    ∃ new, (replay runner ms w).events = w.events ++ new ∧ printed new = prints ms := by
  induction ms generalizing w with
  | nil => exact ⟨[], (List.append_nil _).symm, rfl⟩
  | cons m ms ih =>
      obtain ⟨new, hnew, hprinted⟩ := printed_after hcaptures (h m List.mem_cons_self) w
      obtain ⟨rest, hrest, hrestPrinted⟩ :=
        ih (fun n hn => h n (List.mem_cons_of_mem m hn)) (m.after runner w)
      refine ⟨new ++ rest, ?_, ?_⟩
      · rw [← List.append_assoc, ← hnew]
        exact hrest
      · rw [printed_append, hprinted, hrestPrinted, ← prints_append, List.singleton_append]

end Move

/-- The same, with the calls of a passage. -/
theorem Passage.printed {apart : Set Path} {runner : Runner σ} {w : World σ} {ms : List Move}
    {xs : List Exchange} (h : Passage apart w xs (Move.replay runner ms w))
    (hcaptures : runner.Captures) (hms : ∀ m ∈ ms, m.IsOwnWords) :
    ∃ new, (Move.replay runner ms w).events = w.events ++ new ∧ calls new = xs ∧
      printed new = Move.prints ms := by
  obtain ⟨new, hnew, hcalls⟩ := h.events
  obtain ⟨new', hnew', hprinted⟩ := Move.printed_replay hcaptures hms w
  obtain rfl : new = new' := List.append_cancel_left (hnew.symm.trans hnew')
  exact ⟨new, hnew, hcalls, hprinted⟩

end GeoBench.Machine
