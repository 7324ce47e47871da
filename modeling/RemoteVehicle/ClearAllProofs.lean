import RemoteVehicle.FullScanProofs

/-!
# Clearing the codes of all nodes

`clear_all_dtcs` asks one node after the other and keeps what came of each in a list of items.
Every one of the four servers takes a clear in every state and answers it positively, so an item
tells what has happened: it is ok exactly if the link did not fail, and then the codes of its node
were cleared at a moment of the call (`clearTarget_ends`).

Nothing says that they stay cleared.  MEDIA and MAIN store a code again with the next check that
fails, and ACT and BODY keep the bit of a failure that is going on.
-/

namespace ClearAll

open Dialogue PcDiagnostics PcFullScan VehicleServers FullScanTruth

section Clear

variable {W : Type} [Preorder W] {state : W → Vehicle} {fails : Node → Prop}

/-- The item of a node tells whether its codes have been cleared between the two worlds. -/
structure Told (state : W → Vehicle) (fails : Node → Prop) (w w' : W) (n : Node)
    (item : ClearItem) : Prop where
  target : item.target = n.name
  cleared : item.ok = true → Meanwhile (fun v => n.Cleared (state v)) w w'
  failed : item.ok = false → fails n
  detail : item.ok = true ↔ item.detail = .none

theorem Told.wider {u w w' u' : W} {n : Node} {item : ClearItem} (h : Told state fails w w' n item)
    (hu : u ≤ w) (hu' : w' ≤ u') : Told state fails u u' n item :=
  ⟨h.target, fun hok => (h.cleared hok).wider hu hu', h.failed, h.detail⟩

/-- **One node.** -/
theorem clearTarget_ends {n : Node} {c : Client W} (h : Linked state fails n c) (w : W) :
    Ends (clearTarget c n.name n.session) w (fun item w' => Told state fails w w' n item)
      fun _ _ => False := by
  have hreq : clearRequest 0xFFFFFF ∈ n.requests :=
    List.mem_append_right _ (List.mem_cons_of_mem _ List.mem_cons_self)
  have hall : Ends (do
      let activation ← c.routingActivation
      let _ ← ensureRoutingActive activation n.name
      let _ ← enterSession c n.session n.name
      c.request (clearRequest 0xFFFFFF)) w
      (fun resp w' => resp = [0x54] ∧ Meanwhile (fun v => n.Cleared (state v)) w w')
      fun _ _ => fails n := by
    refine Ends.bind (h.activation w) fun activation w₁ h₁ hactivation => ?_
    refine Ends.bind (ensure_ends hactivation _ w₁) fun _ w₂ h₂ _ => ?_
    refine Ends.bind (session_ends h _ w₂) fun session w₃ h₃ _ => ?_
    refine (h.request _ hreq w₃).mono ?_ fun _ _ _ he => he
    rintro resp w' - ⟨v, v', hv, hvv', hv', hserve⟩
    obtain ⟨hresp, hcleared⟩ := serves_clear hserve
    exact ⟨hresp, v', (((h₁.trans h₂).trans h₃).trans hv).trans hvv', hv', hcleared⟩
  refine hall.onError (fun resp w' hw' hresp => ?_) fun e w' _ hfails => ?_
  · obtain ⟨rfl, hcleared⟩ := hresp
    exact Ends.pure ⟨rfl, fun _ => hcleared, fun hno => absurd hno.symm Bool.false_ne_true,
      iff_of_true rfl rfl⟩
  · refine Ends.pure ⟨rfl, fun hok => absurd hok Bool.false_ne_true, fun _ => hfails, ?_⟩
    exact ⟨fun hok => absurd hok Bool.false_ne_true, fun hdetail => nomatch hdetail⟩

/-- The outcome tells whether all, some or none of the items are ok. -/
theorem clearOutcome_ok {items : List ClearItem} :
    clearOutcome items = .ok ↔ ∀ item ∈ items, item.ok = true := by
  rw [clearOutcome, ← List.countP_eq_length]
  split_ifs with hall hsome
  · exact iff_of_true rfl hall
  · exact iff_of_false (fun h => nomatch h) hall
  · exact iff_of_false (fun h => nomatch h) hall

theorem clearOutcome_error {items : List ClearItem} (hne : items ≠ []) :
    clearOutcome items = .error ↔ ∀ item ∈ items, item.ok = false := by
  have hnone : (∀ item ∈ items, item.ok = false) ↔ items.countP (·.ok) = 0 := by
    rw [List.countP_eq_zero]
    simp only [Bool.not_eq_true]
  rw [hnone, clearOutcome]
  have hpos : 0 < items.length := List.length_pos_iff.mpr hne
  split_ifs with hall hsome
  · refine iff_of_false (fun h => nomatch h) ?_
    omega
  · exact iff_of_false (fun h => nomatch h) hsome
  · exact iff_of_true rfl (not_not.mp hsome)

/-- **All nodes.** -/
theorem clearAllDtcs_ends {clients : Clients W}
    (hlinked : ∀ n, Linked state fails n (client clients n)) (w : W) :
    Ends (clearAllDtcs clients) w
      (fun items w' => List.Forall₂ (Told state fails w w') Node.all items) fun _ _ => False := by
  refine Ends.bind (clearTarget_ends (hlinked .media) w) fun media w₁ h₁ hmedia => ?_
  refine Ends.bind (clearTarget_ends (hlinked .main) w₁) fun main w₂ h₂ hmain => ?_
  refine Ends.bind (clearTarget_ends (hlinked .act) w₂) fun act w₃ h₃ hact => ?_
  refine Ends.bind (clearTarget_ends (hlinked .body) w₃) fun body w₄ h₄ hbody => ?_
  have hmedia := hmedia.wider (le_refl w) ((h₂.trans h₃).trans h₄)
  have hmain := hmain.wider h₁ (h₃.trans h₄)
  have hact := hact.wider (h₁.trans h₂) h₄
  have hbody := hbody.wider ((h₁.trans h₂).trans h₃) (le_refl w₄)
  exact Ends.pure (.cons hmedia (.cons hmain (.cons hact (.cons hbody .nil))))

/-- A node that was asked has its item. -/
theorem told_item {w w' : W} {ns : List Node} {items : List ClearItem}
    (h : List.Forall₂ (Told state fails w w') ns items) {n : Node} (hn : n ∈ ns) :
    ∃ item ∈ items, Told state fails w w' n item := by
  induction h with
  | nil => cases hn
  | @cons m item ns items htold _ ih =>
      rcases List.mem_cons.mp hn with rfl | hn
      · exact ⟨item, List.mem_cons_self, htold⟩
      · obtain ⟨item', hmem, htold'⟩ := ih hn
        exact ⟨item', List.mem_cons_of_mem item hmem, htold'⟩

/-- An item is of a node. -/
theorem item_told {w w' : W} {ns : List Node} {items : List ClearItem}
    (h : List.Forall₂ (Told state fails w w') ns items) {item : ClearItem} (hitem : item ∈ items) :
    ∃ n, Told state fails w w' n item := by
  induction h with
  | nil => cases hitem
  | @cons m item' ns items htold _ ih =>
      rcases List.mem_cons.mp hitem with rfl | hitem
      · exact ⟨m, htold⟩
      · exact ih hitem

theorem mem_all (n : Node) : n ∈ Node.all := by cases n <;> decide

/-- **CLEARING ALL CODES TELLS WHAT HAS HAPPENED**, for every vehicle that goes on meanwhile and
    whatever links fail.  The call never raises; it has one item for each node, in order.  An item
    is ok exactly if the link did not fail it, and then the codes of its node were cleared at a
    moment of the call.  So OK means that all four were cleared, an error means that no link held,
    and with links that do not fail the outcome is OK. -/
theorem clear_all {clients : Clients W}
    (hlinked : ∀ n, Linked state fails n (client clients n)) (w : W) :
    Ends (clearAllDtcs clients) w
      (fun items w' =>
        List.Forall₂ (Told state fails w w') Node.all items ∧
        (clearOutcome items = .ok → ∀ n : Node, Meanwhile (fun v => n.Cleared (state v)) w w') ∧
        (clearOutcome items = .error → ∀ n, fails n) ∧
        ((∀ n, ¬ fails n) → clearOutcome items = .ok))
      fun _ _ => False := by
  refine (clearAllDtcs_ends hlinked w).mono (fun items w' _ hall => ?_) fun _ _ _ he => he
  refine ⟨hall, ?_, ?_, ?_⟩
  · intro hok n
    obtain ⟨item, hmem, htold⟩ := told_item hall (mem_all n)
    exact htold.cleared (clearOutcome_ok.mp hok item hmem)
  · intro herror n
    obtain ⟨item, hmem, htold⟩ := told_item hall (mem_all n)
    have hne : items ≠ [] := List.ne_nil_of_mem hmem
    exact htold.failed ((clearOutcome_error hne).mp herror item hmem)
  · intro hnever
    rw [clearOutcome_ok]
    intro item hmem
    obtain ⟨n, htold⟩ := item_told hall hmem
    by_contra hno
    exact hnever n (htold.failed (Bool.eq_false_of_not_eq_true hno))

/-- A vehicle whose rear camera was missing, and is cleared. -/
theorem clear_all_started :
    Ends (clearAllDtcs links) started
      (fun items w' => List.Forall₂ (Told History.now (· = .main) started w') Node.all items)
      fun _ _ => False :=
  (clear_all linked_links started).mono (fun _ _ _ h => h.1) fun _ _ _ he => he

end Clear

end ClearAll
