import RemoteVehicle.ClearAllProofs
import RemoteVehicle.LastWord
import RemoteVehicle.PcDiagnosticPage

/-!
# What the diagnosis dashboard shows

The page holds the codes twice and changes both apart with every reply: MEDIA's card and rows with
the first reply of a diagnosis, all with the second, those of the targets that were cleared with
a clear.  Its fetches may overlap, so the replies come in any order.

`Shown` is the invariant.  The four cards are always there, in order, the table is made of them,
and the codes on a card are what the last reply that told of its node has `said`.  `told_truth`
is the other half: what a reply of the backend says of a node was so at a moment of its call.
-/

namespace DiagnosticPage

open Runs Dialogue LastWord PcDiagnostics PcFullScan PcDiagnosticPage VehicleServers
open FullScanTruth ClearAll
open PcPreDrive (ScanReply CardState)

/-! ## What replies tell -/

/-- What the page shows of the vehicle: the codes of a node, and whether MAIN was reached. -/
inductive Topic where
  | codes (n : Node)
  | routing

/-- The reply tells of the topic. -/
def tells (e : PageEvent) (topic : Topic) : Bool :=
  match e with
  | .mediaReply (.data _) =>
      match topic with
      | .codes n => n == .media
      | .routing => false
  | .scanReply (.data _) => true
  | .clearReply (.data items) =>
      match topic with
      | .codes n => n.name ∈ clearedTargets items
      | .routing => false
  | _ => false

/-- The fetch that a reply is for. -/
def awaited : PageEvent → Option Await
  | .mediaReply _ => some .media
  | .scanReply _ => some .scan
  | .clearReply _ => some .clear
  | .routineReply test _ => some (.routine test)
  | _ => none

/-- A reply to a fetch that is in flight. -/
def heard (p : Page) (e : PageEvent) : List PageEvent :=
  if (awaited e).any (· ∈ p.awaits) then [e] else []

/-- The codes of a node that a reply brings. -/
def said (n : Node) (e : Option PageEvent) : List DtcItem :=
  match e with
  | some (.mediaReply (.data r)) => if n = .media then r.dtcs.items else []
  | some (.scanReply (.data scan)) =>
      match n with
      | .media => shown scan.media
      | .main => shown scan.mainRouting
      | _ => []
  | _ => []

/-- The reply is that of a scan. -/
def IsScan (e : Option PageEvent) : Prop := ∃ scan, e = some (.scanReply (.data scan))

/-- What the last scan says of the routing activation of MAIN. -/
def routingSaid (e : Option PageEvent) : RoutingStatus :=
  match e with
  | some (.scanReply (.data scan)) =>
      match scan.mainRouting with
      | .ok _ => .active
      | .error _ => .offline
  | _ => .standby

/-! ## Cards and table -/

/-- The order of the cards. -/
def order : List Node := [.main, .act, .body, .media]

/-- The `id` of the card of a node. -/
def cardId : Node → String
  | .media => "media"
  | .main => "main"
  | .act => actTarget.id
  | .body => bodyTarget.id

/-- The card shows what was said. -/
structure Says (n : Node) (word : Option PageEvent) (card : Card) : Prop where
  id : card.id = cardId n
  name : card.name = n.name
  dtcs : card.dtcs = said n word
  state : n = .act ∨ n = .body → (card.state = .offline ↔ IsScan word)

/-- The row of MAIN's routing activation. -/
def routingRow : RoutingStatus → DidRow
  | .standby => ⟨"Routing Activation", .text "대기", none, none⟩
  | .offline => ⟨"Routing Activation", .text "실패", none, some .bad⟩
  | .active => routingDid true

/-- MAIN's card shows the status of the routing activation. -/
structure RoutingShown (status : RoutingStatus) (card : Card) : Prop where
  row : card.dids.find? (fun item => item.label == "Routing Activation") = some (routingRow status)
  standby : card.state = .standby → status = .standby
  offline : card.state = .offline → status = .offline

theorem RoutingShown.status {status : RoutingStatus} {card : Card} (h : RoutingShown status card) :
    getRoutingStatus (some card) = status := by
  have hrow := h.row
  have heq : getRoutingStatus (some card) =
      if card.state = .standby ∨ some (routingRow status).value = some (.text "대기") then .standby
      else if card.state = .offline ∨ (routingRow status).tone = some .bad then .offline
      else .active := by
    simp only [getRoutingStatus, hrow]
    rfl
  rw [heq]
  cases status with
  | standby => exact if_pos (Or.inr rfl)
  | offline =>
      refine (if_neg ?_).trans (if_pos (Or.inr rfl))
      rintro (hstandby | hvalue)
      · exact RoutingStatus.noConfusion (h.standby hstandby)
      · exact absurd hvalue (by decide)
  | active =>
      refine (if_neg ?_).trans (if_neg ?_)
      · rintro (hstandby | hvalue)
        · exact RoutingStatus.noConfusion (h.standby hstandby)
        · exact absurd hvalue (by decide)
      · rintro (hoffline | htone)
        · exact RoutingStatus.noConfusion (h.offline hoffline)
        · exact absurd htone (by decide)

/-- **The invariant** between the page and the last word on each topic. -/
structure Shown (p : Page) (word : Topic → Option PageEvent) : Prop where
  cards : ∃ card : Node → Card, p.ecus = order.map card ∧
    (∀ n, Says n (word (.codes n)) (card n)) ∧
    RoutingShown (routingSaid (word .routing)) (card .main)
  table : p.dtcs = buildDtcRows p.ecus

theorem shown_initial : Shown Page.initial fun _ => none := by
  refine ⟨⟨fun n => ?_, ?_, ?_, ?_⟩, rfl⟩
  · exact match n with
      | .main => initialMain
      | .act => initialAct
      | .body => initialBody
      | .media => initialMedia
  · rfl
  · intro n
    have hno : ¬ IsScan none := fun ⟨_, h⟩ => Option.some_ne_none _ h.symm
    cases n <;> refine ⟨rfl, rfl, rfl, fun _ => iff_of_false ?_ hno⟩ <;> decide
  · exact ⟨rfl, fun _ => rfl, fun h => absurd h (by decide)⟩

/-! ## Table and cards are changed alike -/

theorem buildDtcRows_cons (card : Card) (cards : List Card) :
    buildDtcRows (card :: cards) = card.dtcs.map (dtcRow card.name) ++ buildDtcRows cards :=
  List.flatMap_cons

theorem buildDtcRows_append (cards cards' : List Card) :
    buildDtcRows (cards ++ cards') = buildDtcRows cards ++ buildDtcRows cards' :=
  List.flatMap_append

/-- The rows of a card bear its name, so a filter by names keeps or drops all of them. -/
theorem filter_rows (keep : String → Bool) (card : Card) :
    (card.dtcs.map (dtcRow card.name)).filter (fun row => keep row.ecu) =
      if keep card.name then card.dtcs.map (dtcRow card.name) else [] := by
  split
  · rename_i hkeep
    refine List.filter_eq_self.mpr fun row hrow => ?_
    obtain ⟨dtc, -, rfl⟩ := List.mem_map.mp hrow
    exact hkeep
  · rename_i hdrop
    refine List.filter_eq_nil_iff.mpr fun row hrow => ?_
    obtain ⟨dtc, -, rfl⟩ := List.mem_map.mp hrow
    exact hdrop

/-- **Filtering the table** is dropping the cards. -/
theorem filter_buildDtcRows (keep : String → Bool) (cards : List Card) :
    (buildDtcRows cards).filter (fun row => keep row.ecu) =
      buildDtcRows (cards.filter fun card => keep card.name) := by
  induction cards with
  | nil => rfl
  | cons card cards ih =>
      rw [buildDtcRows_cons, List.filter_append, filter_rows, ih, List.filter_cons]
      by_cases hkeep : keep card.name = true
      · rw [if_pos hkeep, if_pos hkeep, buildDtcRows_cons]
      · rw [if_neg hkeep, if_neg hkeep, List.nil_append]

/-- **Clearing the cards** is filtering the table. -/
theorem buildDtcRows_cleared (targets : List String) (cards : List Card) :
    buildDtcRows (cards.map (clearedCard targets)) =
      (buildDtcRows cards).filter fun row => row.ecu ∉ targets := by
  induction cards with
  | nil => rfl
  | cons card cards ih =>
      have hrows := filter_rows (fun name => name ∉ targets) card
      rw [List.map_cons, buildDtcRows_cons, buildDtcRows_cons, List.filter_append, ← ih, hrows]
      by_cases hcleared : card.name ∈ targets
      · rw [clearedCard, if_pos hcleared, if_neg (by simpa using hcleared)]
        rfl
      · rw [clearedCard, if_neg hcleared, if_pos (by simpa using hcleared)]

/-! ## Step by step -/

theorem cardId_inj {m n : Node} : cardId m = cardId n ↔ m = n := by
  cases m <;> cases n <;> decide

theorem name_inj {m n : Node} : m.name = n.name ↔ m = n := by
  cases m <;> cases n <;> decide

/-- What the page makes use of in a scan of the backend. -/
structure AsScanned (scan : FullScan) : Prop where
  main : InSection True (fun r => r.routingActivation.responseCode = 0x10) scan.mainRouting
  ecus : InSection True (fun r => List.Forall₂ Codeless [actTarget, bodyTarget] r.ecus)
    scan.mainEcus

section Step

variable {p : Page} {word : Topic → Option PageEvent}

/-- Only what is shown matters. -/
theorem Shown.of_fields {q : Page} (h : Shown p word) (hecus : q.ecus = p.ecus)
    (hdtcs : q.dtcs = p.dtcs) : Shown q word :=
  ⟨hecus ▸ h.cards, by rw [hecus, hdtcs]; exact h.table⟩

/-- A card takes the place of that of its node. -/
theorem mergeEcuById_order {card : Node → Card} (hid : ∀ n, (card n).id = cardId n) {m : Node}
    {next : Card} (hnext : next.id = cardId m) :
    mergeEcuById (order.map card) next = order.map fun n => if n = m then next else card n := by
  rw [mergeEcuById, List.map_map]
  refine List.map_congr_left fun n _ => ?_
  have hiff : (card n).id = next.id ↔ n = m := by rw [hid, hnext, cardId_inj]
  exact if_congr hiff rfl rfl

theorem says_media (r : SectionResult) :
    Says .media (some (.mediaReply (.data r))) (buildMediaCard (.ok r)) := by
  refine ⟨rfl, rfl, rfl, fun hother => ?_⟩
  rcases hother with hact | hbody
  · cases hact
  · cases hbody

/-- **MEDIA's reply.** -/
theorem shown_media (h : Shown p word) (r : SectionResult) :
    Shown (showMedia r p) (overrule tells (.mediaReply (.data r)) word) := by
  obtain ⟨⟨card, hecus, hcards, hrouting⟩, htable⟩ := h
  have hname : ∀ n, (card n).name = n.name := fun n => (hcards n).name
  have hmerge : mergeEcuById p.ecus (buildMediaCard (.ok r)) =
      order.map fun n => if n = .media then buildMediaCard (.ok r) else card n := by
    rw [hecus]
    exact mergeEcuById_order (fun n => (hcards n).id) rfl
  refine ⟨⟨_, hmerge, fun n => ?_, hrouting⟩, ?_⟩
  · by_cases hn : n = .media
    · subst hn
      exact says_media r
    · have hsilent : overrule tells (.mediaReply (.data r)) word (.codes n) = word (.codes n) :=
        if_neg (by simpa [tells] using hn)
      rw [hsilent, if_neg hn]
      exact hcards n
  · -- the rows of the other three stay, and MEDIA's are last
    have hkept : (order.map card).filter (fun card => card.name ≠ "MEDIA PI") =
        [.main, .act, .body].map card := by
      have hother : ∀ n : Node, n.name ≠ "MEDIA PI" ↔ n ≠ .media := fun n =>
        not_congr (name_inj (n := .media))
      simp only [List.filter_map, Function.comp_def, hname, hother]
      rfl
    show p.dtcs.filter _ ++ buildDtcRows [buildMediaCard (.ok r)] = buildDtcRows (mergeEcuById _ _)
    rw [hmerge, htable, hecus, filter_buildDtcRows fun name => name ≠ "MEDIA PI", hkept,
      ← buildDtcRows_append]
    rfl

/-- The card of an ECU behind MAIN after a scan. -/
theorem says_routed {scan : FullScan} (hscan : AsScanned scan) :
    Says .act (some (.scanReply (.data scan))) (routedCard scan.mainEcus initialAct) ∧
      Says .body (some (.scanReply (.data scan))) (routedCard scan.mainEcus initialBody) := by
  have hword : IsScan (some (.scanReply (.data scan))) := ⟨scan, rfl⟩
  have hecus := hscan.ecus
  rcases hsection : scan.mainEcus with e | r <;> rw [hsection] at hecus
  · exact ⟨⟨rfl, rfl, rfl, fun _ => iff_of_true rfl hword⟩,
      ⟨rfl, rfl, rfl, fun _ => iff_of_true rfl hword⟩⟩
  · obtain ⟨routing, ecus⟩ := r
    have hecus : List.Forall₂ Codeless [actTarget, bodyTarget] ecus := hecus
    obtain ⟨act, rest, hact, hrest, rfl⟩ := List.forall₂_cons_left_iff.mp hecus
    obtain ⟨body, none', hbody, hend, rfl⟩ := List.forall₂_cons_left_iff.mp hrest
    obtain rfl := List.forall₂_nil_left_iff.mp hend
    have hfindAct : [act, body].find? (fun ecu => ecu.id == initialAct.id) = some act :=
      List.find?_cons_of_pos (by rw [hact.id]; rfl)
    have hfindBody : [act, body].find? (fun ecu => ecu.id == initialBody.id) = some body := by
      rw [List.find?_cons_of_neg (by rw [hact.id]; decide)]
      exact List.find?_cons_of_pos (by rw [hbody.id]; rfl)
    constructor
    · rw [routedCard, hfindAct]
      exact ⟨hact.id, hact.name, hact.items, fun _ =>
        iff_of_true (congrArg PcPreDrive.ecuState hact.state) hword⟩
    · rw [routedCard, hfindBody]
      exact ⟨hbody.id, hbody.name, hbody.items, fun _ =>
        iff_of_true (congrArg PcPreDrive.ecuState hbody.state) hword⟩

/-- The cards of a scan. -/
def scanCard (scan : FullScan) : Node → Card
  | .main => buildMainCard scan.mainRouting
  | .act => routedCard scan.mainEcus initialAct
  | .body => routedCard scan.mainEcus initialBody
  | .media => buildMediaCard scan.media

theorem says_scan {scan : FullScan} (hscan : AsScanned scan) (n : Node) :
    Says n (some (.scanReply (.data scan))) (scanCard scan n) := by
  cases n with
  | media =>
      have hno : ¬ (Node.media = .act ∨ Node.media = .body) := by decide
      rw [scanCard]
      rcases hmedia : scan.media with e | r <;>
        exact ⟨rfl, rfl, by rw [said, hmedia]; rfl, fun hother => absurd hother hno⟩
  | main =>
      have hno : ¬ (Node.main = .act ∨ Node.main = .body) := by decide
      rw [scanCard]
      rcases hmain : scan.mainRouting with e | r <;>
        exact ⟨rfl, rfl, by rw [said, hmain]; rfl, fun hother => absurd hother hno⟩
  | act => exact (says_routed hscan).1
  | body => exact (says_routed hscan).2

/-- MAIN's card after a scan. -/
theorem routingShown_scan {scan : FullScan} (hscan : AsScanned scan) :
    RoutingShown (routingSaid (some (.scanReply (.data scan))))
      (buildMainCard scan.mainRouting) := by
  have hmain := hscan.main
  rw [routingSaid]
  rcases hsection : scan.mainRouting with e | r <;> rw [hsection] at hmain
  · exact ⟨rfl, fun h => CardState.noConfusion h, fun _ => rfl⟩
  · have hactive : r.routingActivation.responseCode = 0x10 := hmain
    have hsuccess : (r.routingActivation.responseCode == 0x10) = true := by rw [hactive]; rfl
    refine ⟨?_, ?_, ?_⟩
    · show some (routingDid (r.routingActivation.responseCode == 0x10)) = _
      rw [hsuccess]
      rfl
    · simp only [buildMainCard]
      split <;> exact fun h => CardState.noConfusion h
    · simp only [buildMainCard]
      split <;> exact fun h => CardState.noConfusion h

/-- **The reply of a scan.** -/
theorem shown_scan {scan : FullScan} (hscan : AsScanned scan) :
    Shown (showScan scan p) (overrule tells (.scanReply (.data scan)) word) := by
  have hword : overrule tells (.scanReply (.data scan)) word =
      fun _ => some (.scanReply (.data scan)) := funext fun _ => if_pos rfl
  rw [hword]
  exact ⟨⟨scanCard scan, rfl, says_scan hscan, routingShown_scan hscan⟩, rfl⟩

/-- An outcome that is an error has cleared nothing, so the reply is handled like any other. -/
theorem showClear_eq (items : List ClearItem) (p : Page) :
    showClear items p =
      { p with
        ecus := p.ecus.map (clearedCard (clearedTargets items))
        dtcs := p.dtcs.filter fun dtc => dtc.ecu ∉ clearedTargets items } := by
  rw [showClear]
  split
  · rename_i herror
    have hnone : clearedTargets items = [] := by
      rw [clearedTargets, List.map_eq_nil_iff, List.filter_eq_nil_iff]
      intro item hitem hok
      have hne : items ≠ [] := List.ne_nil_of_mem hitem
      exact absurd (hok.symm.trans ((clearOutcome_error hne).mp herror item hitem)) (by decide)
    have hsame : ∀ card ∈ p.ecus, clearedCard [] card = card := fun card _ =>
      if_neg List.not_mem_nil
    have hall : ∀ row ∈ p.dtcs, decide (row.ecu ∉ ([] : List String)) = true := fun row _ =>
      decide_eq_true List.not_mem_nil
    rw [hnone, List.map_congr_left hsame, List.map_id', List.filter_eq_self.mpr hall]
  · rfl

theorem says_cleared {n : Node} {before : Option PageEvent} {card : Card}
    (h : Says n before card) (items : List ClearItem) :
    Says n (if n.name ∈ clearedTargets items then some (.clearReply (.data items)) else before)
      (clearedCard (clearedTargets items) card) := by
  rw [clearedCard, h.name]
  split
  · refine ⟨h.id, rfl, rfl, fun _ => iff_of_false ?_ ?_⟩
    · show nextState card ≠ .offline
      rw [nextState]
      split
      · exact fun hno => CardState.noConfusion hno
      · split <;> exact fun hno => CardState.noConfusion hno
    · rintro ⟨scan, hscan⟩
      cases hscan
  · exact h

/-- **The reply of a clear.** -/
theorem shown_clear (h : Shown p word) (items : List ClearItem) :
    Shown (showClear items p) (overrule tells (.clearReply (.data items)) word) := by
  obtain ⟨⟨card, hecus, hcards, hrouting⟩, htable⟩ := h
  rw [showClear_eq]
  refine ⟨⟨fun n => clearedCard (clearedTargets items) (card n), ?_, fun n => ?_, ?_⟩, ?_⟩
  · show p.ecus.map _ = _
    rw [hecus, List.map_map]
    rfl
  · have hcleared := says_cleared (hcards n) items
    have hword : overrule tells (.clearReply (.data items)) word (.codes n) =
        if n.name ∈ clearedTargets items then some (.clearReply (.data items))
        else word (.codes n) := if_congr decide_eq_true_iff rfl rfl
    rw [hword]
    exact hcleared
  · show RoutingShown (routingSaid (word .routing)) (clearedCard _ (card .main))
    rw [clearedCard]
    split
    · have hid : (card .main).id = "main" := (hcards .main).id
      have hstate : nextState (card .main) = .ready ∨ nextState (card .main) = .warning := by
        rw [nextState, hid]
        cases hasBadDid (card .main).dids
        · exact Or.inl rfl
        · exact Or.inr rfl
      refine ⟨hrouting.row, fun hno => ?_, fun hno => ?_⟩ <;>
        rcases hstate with hstate | hstate <;> exact CardState.noConfusion (hstate.symm.trans hno)
    · exact hrouting
  · show p.dtcs.filter _ = buildDtcRows (p.ecus.map _)
    rw [htable, buildDtcRows_cleared]

theorem heard_awaited {e : PageEvent} {a : Await} (he : awaited e = some a) (ha : a ∈ p.awaits) :
    heard p e = [e] := by
  rw [heard, he]
  exact if_pos (decide_eq_true ha)

theorem heard_unawaited {e : PageEvent} {a : Await} (he : awaited e = some a) (ha : a ∉ p.awaits) :
    heard p e = [] := by
  rw [heard, he]
  exact if_neg fun h => ha (of_decide_eq_true h)

/-- **Step lemma.** -/
theorem shown_step (h : Shown p word) {e : PageEvent}
    (hscan : ∀ scan, e = .scanReply (.data scan) → AsScanned scan) :
    (heard p e = [] ∧ Shown (pageStep p e) word) ∨
      ∃ w, heard p e = [w] ∧ Shown (pageStep p e) (overrule tells w word) := by
  cases e with
  | opened => exact Or.inl ⟨rfl, h.of_fields rfl rfl⟩
  | run =>
      refine Or.inl ⟨rfl, ?_⟩
      rw [pageStep]
      split
      · exact h
      · exact h.of_fields rfl rfl
  | clear =>
      refine Or.inl ⟨rfl, ?_⟩
      rw [pageStep]
      split
      · exact h
      · exact h.of_fields rfl rfl
  | routine test =>
      refine Or.inl ⟨rfl, ?_⟩
      rw [pageStep]
      split
      · exact h
      · exact h.of_fields rfl rfl
  | mediaReply reply =>
      by_cases hin : .media ∈ p.awaits
      · refine Or.inr ⟨_, heard_awaited rfl hin, ?_⟩
        rw [pageStep, if_pos hin]
        cases reply with
        | failed =>
            rw [overrule_silent fun k => rfl]
            exact h.of_fields rfl rfl
        | data r => exact (shown_media h r).of_fields rfl rfl
      · exact Or.inl ⟨heard_unawaited rfl hin, by rw [pageStep, if_neg hin]; exact h⟩
  | scanReply reply =>
      by_cases hin : .scan ∈ p.awaits
      · refine Or.inr ⟨_, heard_awaited rfl hin, ?_⟩
        rw [pageStep, if_pos hin]
        cases reply with
        | failed =>
            rw [overrule_silent fun k => rfl]
            exact h.of_fields rfl rfl
        | data scan => exact (shown_scan (p := p) (hscan scan rfl)).of_fields rfl rfl
      · exact Or.inl ⟨heard_unawaited rfl hin, by rw [pageStep, if_neg hin]; exact h⟩
  | clearReply reply =>
      by_cases hin : .clear ∈ p.awaits
      · refine Or.inr ⟨_, heard_awaited rfl hin, ?_⟩
        rw [pageStep, if_pos hin]
        cases reply with
        | failed =>
            rw [overrule_silent fun k => rfl]
            exact h.of_fields rfl rfl
        | data items => exact (shown_clear h items).of_fields rfl rfl
      · exact Or.inl ⟨heard_unawaited rfl hin, by rw [pageStep, if_neg hin]; exact h⟩
  | routineReply test reply =>
      by_cases hin : .routine test ∈ p.awaits
      · refine Or.inr ⟨_, heard_awaited rfl hin, ?_⟩
        rw [pageStep, if_pos hin, overrule_silent fun k => rfl]
        exact h.of_fields rfl rfl
      · exact Or.inl ⟨heard_unawaited rfl hin, by rw [pageStep, if_neg hin]; exact h⟩

end Step

/-! ## Replies of the backend -/

section Truth

variable {W : Type} [Preorder W] {state : W → Vehicle} {fails : Node → Prop} {clients : Clients W}

/-- What a reply brings was made by the backend between the two worlds. -/
def Made (clients : Clients W) (e : PageEvent) (w w' : W) : Prop :=
  match e with
  | .mediaReply (.data r) => scanMediaPi clients.media w = (.ok r, w')
  | .scanReply (.data scan) => runFullScan clients w = (.ok scan, w')
  | .clearReply (.data items) => clearAllDtcs clients w = (.ok items, w')
  | _ => True

/-- The codes that a node lists when it is asked; ACT and BODY refuse. -/
def listed : Node → Vehicle → List DtcItem
  | .media => fun s => mediaCodes s.dtcs
  | .main => fun s => mainCodes s.main.dcm
  | _ => fun _ => []

/-- **A node that is cleared** lists nothing. -/
theorem listed_cleared {n : Node} {s : Vehicle} (h : n.Cleared s) : listed n s = [] := by
  cases n with
  | media =>
      have hnone : s.dtcs = [] := h
      show mediaCodes s.dtcs = []
      rw [hnone]
      rfl
  | main =>
      obtain ⟨hpc, hact, hbody⟩ := h
      show mainCodes s.main.dcm = []
      rw [mainCodes, hpc, hact, hbody]
      rfl
  | act => rfl
  | body => rfl

/-- What a section shows was listed, or there is none. -/
theorem shown_section {n : Node} {w w' : W} {r : Except Raised SectionResult}
    {truth : SectionResult → Prop} (h : InSection (fails n) truth r)
    (hcodes : ∀ r, truth r → Meanwhile (fun v => r.dtcs.items = listed n (state v)) w w') :
    (fails n ∧ shown r = []) ∨ Meanwhile (fun v => shown r = listed n (state v)) w w' := by
  cases r with
  | ok r => exact Or.inr (hcodes r h)
  | error e => exact Or.inl ⟨h, rfl⟩

/-- **What a reply says of a node** was listed at a moment of its call. -/
theorem told_truth (hlinked : ∀ n, Linked state fails n (client clients n)) {e : PageEvent}
    {w w' : W} (hmade : Made clients e w w') {n : Node} (htells : tells e (.codes n) = true) :
    (fails n ∧ said n (some e) = []) ∨
      Meanwhile (fun v => said n (some e) = listed n (state v)) w w' := by
  cases e with
  | mediaReply reply =>
      cases reply with
      | failed => cases htells
      | data r =>
          obtain rfl : n = .media := eq_of_beq htells
          obtain ⟨-, htruth⟩ := (scanMediaPi_ends (hlinked .media) w).ended hmade
          exact Or.inr htruth.dtcs
  | scanReply reply =>
      cases reply with
      | failed => cases htells
      | data scan =>
          obtain ⟨hle, htruth⟩ := (runFullScan_ends hlinked w).ended hmade
          cases n with
          | media => exact shown_section htruth.media fun r hr => hr.dtcs
          | main => exact shown_section htruth.main fun r hr => hr.dtcs
          | act => exact Or.inr ⟨w, le_refl w, hle, rfl⟩
          | body => exact Or.inr ⟨w, le_refl w, hle, rfl⟩
  | clearReply reply =>
      cases reply with
      | failed => cases htells
      | data items =>
          obtain ⟨-, hall⟩ := (clearAllDtcs_ends hlinked w).ended hmade
          obtain ⟨item, hitem, hname⟩ := List.mem_map.mp (of_decide_eq_true htells)
          obtain ⟨hmem, hok⟩ := List.mem_filter.mp hitem
          obtain ⟨m, htold⟩ := item_told hall hmem
          obtain rfl : m = n := name_inj.mp (htold.target.symm.trans hname)
          exact Or.inr ((htold.cleared hok).mono fun v hcleared => (listed_cleared hcleared).symm)
  | _ => cases htells

theorem Made.asScanned (hlinked : ∀ n, Linked state fails n (client clients n)) {scan : FullScan}
    {w w' : W} (hmade : Made clients (.scanReply (.data scan)) w w') : AsScanned scan := by
  obtain ⟨-, htruth⟩ := (runFullScan_ends hlinked w).ended hmade
  refine ⟨?_, ?_⟩
  · have hmain := htruth.main
    rcases hsection : scan.mainRouting with e | r <;> rw [hsection] at hmain
    · exact trivial
    · exact hmain.active
  · have hecus := htruth.ecus
    rcases hsection : scan.mainEcus with e | r <;> rw [hsection] at hecus
    · exact trivial
    · exact hecus

/-- A reply that is heard is one of the events. -/
theorem heard_mem {p : Page} {es : List PageEvent} {e : PageEvent}
    (h : e ∈ trace pageStep heard p es) : e ∈ es := by
  obtain ⟨q, e', he', hheard⟩ := mem_trace h
  rw [heard] at hheard
  split at hheard
  · exact List.mem_singleton.mp hheard ▸ he'
  · cases hheard

/-- **Run lemma.** -/
theorem shown_run (hlinked : ∀ n, Linked state fails n (client clients n)) {es : List PageEvent}
    (hmade : ∀ e ∈ es, ∃ w w', Made clients e w w') :
    Shown (run pageStep Page.initial es) (last tells (trace pageStep heard Page.initial es)) := by
  have hok : AllSteps pageStep (fun _ e => ∃ w w', Made clients e w w') Page.initial es :=
    allSteps_of_mem fun _ e he => hmade e he
  refine run_last Shown (fun p word e hshown he => shown_step hshown fun scan hscan => ?_)
    shown_initial hok
  obtain ⟨w, w', he⟩ := he
  subst hscan
  exact Made.asScanned hlinked he

/-- **WHAT THE DASHBOARD SHOWS**, in every run of the page, whatever order the replies of the
    backend come in, for every vehicle that goes on meanwhile and whatever links fail.  The four
    cards are always there, and the codes on a card are what the last reply that told of its node
    said.  The table of codes is that of the cards, MAIN's first and MEDIA's last.  What was said
    of a node it listed at a moment of the call that the reply is of; or there is none, since its
    link has failed.  The cards of ACT and BODY are offline exactly while a scan has the last
    word.  MAIN's routing is that of the last scan that arrived; a clear does not change it. -/
theorem diagnostic_page (hlinked : ∀ n, Linked state fails n (client clients n))
    (es : List PageEvent) (hmade : ∀ e ∈ es, ∃ w w', Made clients e w w') :
    let p := run pageStep Page.initial es
    let word := last tells (trace pageStep heard Page.initial es)
    (∃ card : Node → Card, p.ecus = order.map card ∧ ∀ n, Says n (word (.codes n)) (card n)) ∧
    p.dtcs = order.flatMap (fun n => (said n (word (.codes n))).map (dtcRow n.name)) ∧
    (∀ n e, word (.codes n) = some e → e ∈ es ∧ ∃ w w', Made clients e w w' ∧
      ((fails n ∧ said n (some e) = []) ∨
        Meanwhile (fun v => said n (some e) = listed n (state v)) w w')) ∧
    getRoutingStatus (p.ecus.find? fun ecu => ecu.id == "main") = routingSaid (word .routing) := by
  intro p word
  have hshown : Shown p word := shown_run hlinked hmade
  obtain ⟨⟨card, hecus, hcards, hrouting⟩, htable⟩ := hshown
  refine ⟨⟨card, hecus, hcards⟩, ?_, ?_, ?_⟩
  · have hrows : ∀ n ∈ order, (card n).dtcs.map (dtcRow (card n).name) =
        (said n (word (.codes n))).map (dtcRow n.name) := fun n _ => by
      rw [(hcards n).dtcs, (hcards n).name]
    rw [htable, hecus, buildDtcRows, List.flatMap_map]
    exact List.flatMap_congr hrows
  · intro n e he
    obtain ⟨hmem, htells⟩ := last_mem he
    have hes : e ∈ es := heard_mem hmem
    obtain ⟨w, w', hmade⟩ := hmade e hes
    exact ⟨hes, w, w', hmade, told_truth hlinked hmade htells⟩
  · have hfind : p.ecus.find? (fun ecu => ecu.id == "main") = some (card .main) := by
      rw [hecus]
      refine List.find?_cons_of_pos ?_
      rw [(hcards .main).id]
      rfl
    rw [hfind]
    exact hrouting.status

/-- The first diagnosis, of a vehicle without its rear camera; MEDIA's first reply is lost. -/
theorem diagnostic_page_started :
    ∃ scan w', runFullScan links started = (.ok scan, w') ∧
      (run pageStep Page.initial [.opened, .mediaReply .failed, .scanReply (.data scan)]).dtcs =
        order.flatMap fun n =>
          (said n (some (.scanReply (.data scan)))).map (dtcRow n.name) := by
  obtain ⟨scan, w', hrun, -, -⟩ := (runFullScan_ends linked_links started).value
  refine ⟨scan, w', hrun, ?_⟩
  refine (diagnostic_page linked_links _ ?_).2.1
  intro e he
  simp only [List.mem_cons, List.not_mem_nil, or_false] at he
  rcases he with rfl | rfl | rfl
  · exact ⟨started, started, trivial⟩
  · exact ⟨started, started, trivial⟩
  · exact ⟨started, w', hrun⟩

end Truth

end DiagnosticPage
