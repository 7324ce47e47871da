import RemoteVehicle.Runs

/-!
# The last word on each topic

Words come one after the other and each of them tells of some topics.  `last tells ws k` is the
last of the words that tells of the topic `k`; a further word takes the place of all before it on
the topics it tells of and leaves the others alone (`last_append`).

A component that overwrites parts of its state is what the last words make of it.  `run_last` is
the rule for such runs: the invariant is between the state and the last word on each topic, and a
step need not know the words before it.
-/

namespace LastWord

open Runs

variable {W K S E : Type}

/-- The last of the words that tells of the topic. -/
def last (tells : W → K → Bool) (ws : List W) (k : K) : Option W :=
  (ws.filter fun w => tells w k).getLast?

/-- What the last words are after a further word. -/
def overrule (tells : W → K → Bool) (w : W) (said : K → Option W) (k : K) : Option W :=
  if tells w k then some w else said k

variable {tells : W → K → Bool}

/-- A word that tells of nothing changes nothing. -/
theorem overrule_silent {w : W} (h : ∀ k, tells w k = false) (said : K → Option W) :
    overrule tells w said = said := by
  funext k
  rw [overrule, h k, if_neg Bool.false_ne_true]

theorem last_append (ws : List W) (w : W) :
    last tells (ws ++ [w]) = overrule tells w (last tells ws) := by
  funext k
  rw [last, List.filter_append, List.filter_singleton, overrule, cond_eq_ite]
  split
  · exact List.getLast?_concat
  · rw [List.append_nil]
    rfl

theorem last_mem {ws : List W} {k : K} {w : W} (h : last tells ws k = some w) :
    w ∈ ws ∧ tells w k = true :=
  List.mem_filter.mp (List.mem_of_getLast? h)

/-- **The run rule.**  An invariant between the state and the last words, kept by the steps that
    say nothing and by those that say one word. -/
theorem run_last {step : S → E → S} {heard : S → E → List W} {ok : S → E → Prop}
    (Inv : S → (K → Option W) → Prop)
    (hstep : ∀ s said e, Inv s said → ok s e → (heard s e = [] ∧ Inv (step s e) said) ∨
      ∃ w, heard s e = [w] ∧ Inv (step s e) (overrule tells w said))
    {s : S} (hs : Inv s fun _ => none) {es : List E} (hes : AllSteps step ok s es) :
    Inv (run step s es) (last tells (trace step heard s es)) := by
  have hkeep : ∀ s ws e, Inv s (last tells ws) → ok s e →
      Inv (step s e) (last tells (ws ++ heard s e)) := by
    intro s ws e hinv hok
    rcases hstep s (last tells ws) e hinv hok with ⟨hheard, hnext⟩ | ⟨w, hheard, hnext⟩
    · rw [hheard, List.append_nil]
      exact hnext
    · rw [hheard, last_append]
      exact hnext
  have hstart : Inv s (last tells []) := hs
  exact trace_guarded (fun s ws => Inv s (last tells ws)) hkeep hstart hes

end LastWord
