import RemoteVehicle.VehicleServers

/-!
# The full scan shows what was true while it ran

The scan asks four nodes one question after the other while the vehicle goes on, so what it shows
of them is of different moments.  `SectionTruth` says that every row of MEDIA and of MAIN was true
at a moment of the scan, and that the list of codes is what the node had stored at one moment.

The two ECUs behind MAIN never show a code: they refuse the request for the codes by mask, and
`Codeless` is what is left of them, also where the link fails.
-/

namespace FullScanTruth

open Dialogue PcDiagnostics PcFullScan VehicleServers ScanAgreement

/-! ## Parts of a scan -/

section Parts

variable {W : Type} [Preorder W] {state : W → Vehicle} {fails : Node → Prop} {n : Node}
  {c : Client W}

/-- A response was served at a moment. -/
theorem request_ends (h : Linked state fails n c) {req : List UInt8} (hreq : req ∈ n.requests)
    (w : W) : Ends (c.request req) w
      (fun resp w' => Meanwhile (fun v => ∃ s', n.Serves req (state v) resp s') w w')
      fun _ _ => fails n := by
  refine (h.request req hreq w).mono ?_ fun _ _ _ he => he
  rintro resp w' - ⟨v, v', hv, hvv', hv', hserve⟩
  exact ⟨v, hv, hvv'.trans hv', state v', hserve⟩

theorem ensure_ends {activation : Activation} (h : activation.responseCode = 0x10 ∨ fails n)
    (name : String) (w : W) : Ends (ensureRoutingActive activation name : Talk W Raised Unit) w
      (fun _ _ => activation.responseCode = 0x10) fun _ _ => fails n := by
  rw [ensureRoutingActive]
  split
  · rename_i hrefused
    exact Ends.raise (h.resolve_left hrefused)
  · rename_i hactive
    exact Ends.pure (not_not.mp hactive)

theorem session_ends (h : Linked state fails n c) (name : String) (w : W) :
    Ends (enterSession c n.session name) w (fun session _ => session.ok = true)
      fun _ _ => fails n := by
  have hreq : [0x10, n.session] ∈ n.requests := List.mem_append_left _ List.mem_cons_self
  refine Ends.bind (request_ends h hreq w) fun resp w' _ ⟨v, _, _, s', hserve⟩ => ?_
  rw [if_pos (serves_session hserve)]
  exact Ends.pure rfl

/-- **Every row** that is read says of a moment what its response says. -/
theorem dids_end (h : Linked state fails n c) {P : DidSpec → Vehicle → DidResult → Prop}
    (hP : ∀ spec ∈ n.dids, ∀ resp s s', n.Serves (didRequest spec.did) s resp s' →
      P spec s (didResult spec resp)) (w : W) :
    Ends (readDids c n.dids) w
      (fun dids w' => List.Forall₂ (fun spec result =>
        Meanwhile (fun v => P spec (state v) result) w w') n.dids dids)
      fun _ _ => fails n := by
  refine Ends.forEach (S := fun spec result w' =>
    Meanwhile (fun v => P spec (state v) result) w w') ?_ ?_
  · intro spec hspec u hu
    have hreq : didRequest spec.did ∈ n.requests :=
      List.mem_append_left _ (List.mem_cons_of_mem _ (List.mem_map.mpr ⟨spec, hspec, rfl⟩))
    refine Ends.bind (request_ends h hreq u) fun resp w' hw' hserved => Ends.pure ?_
    refine (hserved.mono fun v hserve => ?_).wider hu (le_refl w')
    obtain ⟨s', hserve⟩ := hserve
    exact hP spec hspec resp (state v) s' hserve
  · intro spec result u u' hu hshows
    exact hshows.wider (le_refl w) hu

/-- **The list of codes** says of one moment what its response says. -/
theorem report_ends (h : Linked state fails n c) {P : Vehicle → DtcsResult → Prop}
    (hP : ∀ resp s s', n.Serves n.report s resp s' → P s (dtcsResult resp)) (w : W) :
    Ends (c.request n.report >>= fun resp => pure (dtcsResult resp)) w
      (fun dtcs w' => Meanwhile (fun v => P (state v) dtcs) w w') fun _ _ => fails n := by
  have hreq : n.report ∈ n.requests := List.mem_append_right _ List.mem_cons_self
  refine Ends.bind (request_ends h hreq w) fun resp w' hw' hserved => Ends.pure ?_
  obtain ⟨v, hv, hv', s', hserve⟩ := hserved
  exact ⟨v, hv, hv', hP resp (state v) s' hserve⟩

end Parts

/-! ## The sections of MEDIA and MAIN -/

section Truth

variable {W : Type} [Preorder W] (state : W → Vehicle)

/-- What a section shows of a node was so between the two worlds. -/
structure SectionTruth (dids : List DidSpec) (value : Nat → Vehicle → Value)
    (codes : Vehicle → List DtcItem) (w w' : W) (r : SectionResult) : Prop where
  active : r.routingActivation.responseCode = 0x10
  session : r.session.ok = true
  dids : List.Forall₂ (fun spec result =>
    Meanwhile (fun v => Shows spec (value spec.did (state v)) result) w w') dids r.dids
  dtcs : Meanwhile (fun v => r.dtcs.items = codes (state v)) w w'
  warnings : r.warnings = []

/-- The section of MEDIA. -/
def MediaTruth : W → W → SectionResult → Prop :=
  SectionTruth state mediaDids (fun did s => mediaValue did s.status) fun s => mediaCodes s.dtcs

/-- The section of MAIN. -/
def MainTruth : W → W → SectionResult → Prop :=
  SectionTruth state mainDids (fun did s => mainValue did s.main.dcm) fun s => mainCodes s.main.dcm

variable {state}

theorem SectionTruth.wider {dids : List DidSpec} {value : Nat → Vehicle → Value}
    {codes : Vehicle → List DtcItem} {u w w' u' : W} {r : SectionResult}
    (h : SectionTruth state dids value codes w w' r) (hu : u ≤ w) (hu' : w' ≤ u') :
    SectionTruth state dids value codes u u' r where
  active := h.active
  session := h.session
  dids := h.dids.imp fun _ _ hshows => hshows.wider hu hu'
  dtcs := h.dtcs.wider hu hu'
  warnings := h.warnings

variable {fails : Node → Prop} {c : Client W}

theorem scanMediaPi_ends (h : Linked state fails .media c) (w : W) :
    Ends (scanMediaPi c) w (fun r w' => MediaTruth state w w' r) fun _ _ => fails .media := by
  refine Ends.bind (h.activation w) fun activation w₁ h₁ hactivation => ?_
  refine Ends.bind (ensure_ends hactivation _ w₁) fun _ w₂ h₂ hactive => ?_
  refine Ends.bind (session_ends h _ w₂) fun session w₃ h₃ hsession => ?_
  refine Ends.bind (dids_end h (fun spec hspec resp s s' => media_did hspec) w₃)
    fun dids w₄ h₄ hdids => ?_
  have hreport := report_ends h (P := fun s dtcs => dtcs.ok = true ∧
    dtcs.items = mediaCodes s.dtcs) (fun resp s s' => media_report) w₄
  refine Ends.bind hreport fun dtcs w₅ h₅ hdtcs => ?_
  obtain ⟨v, hv, hv', hok, hitems⟩ := hdtcs
  rw [if_pos hok]
  have hstart : w ≤ w₃ := (h₁.trans h₂).trans h₃
  refine Ends.pure ⟨hactive, hsession, hdids.imp fun _ _ hshows => hshows.wider hstart h₅, ?_, rfl⟩
  exact ⟨v, (hstart.trans h₄).trans hv, hv', hitems⟩

theorem testMainRoutingActivation_ends (h : Linked state fails .main c) (w : W) :
    Ends (testMainRoutingActivation c) w (fun r w' => MainTruth state w w' r)
      fun _ _ => fails .main := by
  refine Ends.bind (h.activation w) fun activation w₁ h₁ hactivation => ?_
  refine Ends.bind (ensure_ends hactivation _ w₁) fun _ w₂ h₂ hactive => ?_
  refine Ends.bind (session_ends h _ w₂) fun session w₃ h₃ hsession => ?_
  refine Ends.bind (dids_end h (fun spec hspec resp s s' => main_shows hspec) w₃)
    fun dids w₄ h₄ hdids => ?_
  have hreport := report_ends h (P := fun s dtcs => dtcs.ok = true ∧
    dtcs.items = mainCodes s.main.dcm) (fun resp s s' => main_report) w₄
  refine Ends.bind hreport fun dtcs w₅ h₅ hdtcs => ?_
  obtain ⟨v, hv, hv', hok, hitems⟩ := hdtcs
  have hstart : w ≤ w₃ := (h₁.trans h₂).trans h₃
  refine Ends.pure ⟨hactive, hsession, hdids.imp fun _ _ hshows => hshows.wider hstart h₅, ?_, ?_⟩
  · exact ⟨v, (hstart.trans h₄).trans hv, hv', hitems⟩
  · exact if_pos hok

end Truth

/-! ## The ECUs behind MAIN -/

/-- The entry of a target that is offline and has no codes. -/
structure Codeless (t : Target) (entry : EcuEntry) : Prop where
  id : entry.id = t.id
  name : entry.name = t.name
  state : entry.state = .offline
  items : entry.dtcs.items = []

theorem codeless_offlineEntry (t : Target) (p : Progress) (e : DoipError) :
    Codeless t (offlineEntry t p e).2 := ⟨rfl, rfl, rfl, rfl⟩

theorem codeless_entries {ts : List Target} {entries : List EcuEntry}
    (h : List.Forall₂ Codeless ts entries) :
    ∀ entry ∈ entries, entry.state = .offline ∧ entry.dtcs.items = [] := by
  induction h with
  | nil => exact fun entry hentry => absurd hentry List.not_mem_nil
  | cons hcodeless _ ih =>
      intro entry hentry
      rcases List.mem_cons.mp hentry with rfl | hentry
      · exact ⟨hcodeless.state, hcodeless.items⟩
      · exact ih entry hentry

section Ecus

variable {W : Type} [Preorder W] {state : W → Vehicle} {fails : Node → Prop} {c : Client W}

theorem onDoipError_ends {n : Node} (hfails : fails n) (t : Target) (p : Progress) (e : Raised)
    (w : W) : Ends (onDoipError t p e : Talk W Raised (Option Activation × EcuEntry)) w
      (fun r _ => Codeless t r.2) fun _ _ => fails n := by
  cases e with
  | doip e => exact Ends.pure (codeless_offlineEntry t p e)
  | other => exact Ends.raise hfails

/-- **One round.**  Whatever the link does, no code is shown. -/
theorem scanEcu_ends {n : Node} {t : Target} (hsession : n.session = 0x03) (hdids : n.dids = t.dids)
    (hreport : n.report = maskRequest)
    (hmask : ∀ resp s s', n.Serves maskRequest s resp s' → resp = [0x7F, 0x19, 0x13])
    (h : Linked state fails n c) (w : W) :
    Ends (scanEcu c t) w (fun r _ => Codeless t r.2) fun _ _ => fails n := by
  have hhandle : ∀ p e (w' : W), fails n →
      Ends (onDoipError t p e : Talk W Raised (Option Activation × EcuEntry)) w'
        (fun r _ => Codeless t r.2) fun _ _ => fails n :=
    fun p e w' hfails => onDoipError_ends hfails t p e w'
  refine (h.activation w).onError (fun activation w₁ _ hactivation => ?_)
    fun e w₁ _ he => hhandle _ e w₁ he
  refine (ensure_ends hactivation _ w₁).onError (fun _ w₂ _ _ => ?_)
    fun e w₂ _ he => hhandle _ e w₂ he
  have henter := session_ends h t.name w₂
  rw [hsession] at henter
  refine henter.onError (fun session w₃ _ _ => ?_) fun e w₃ _ he => hhandle _ e w₃ he
  have hread := dids_end h (P := fun _ _ _ => True) (fun _ _ _ _ _ _ => trivial) w₃
  rw [hdids] at hread
  refine hread.onError (fun dids w₄ _ _ => ?_) fun e w₄ _ he => hhandle _ e w₄ he
  have hask : Ends (readDtcs c .statusMask) w₄
      (fun dtcs _ => dtcs = dtcsResult [0x7F, 0x19, 0x13]) fun _ _ => fails n := by
    have hserved := report_ends h (P := fun _ dtcs => dtcs = dtcsResult [0x7F, 0x19, 0x13])
      (fun resp s s' hserve => by rw [hmask resp s s' (hreport ▸ hserve)]) w₄
    rw [hreport] at hserved
    exact hserved.mono (fun dtcs _ _ ⟨_, _, _, hdtcs⟩ => hdtcs) fun _ _ _ he => he
  refine hask.onError (fun dtcs w₅ _ hdtcs => ?_) fun e w₅ _ he => hhandle _ e w₅ he
  rw [hdtcs]
  exact Ends.pure (codeless_offlineEntry t _ _)

theorem act_refuses {resp : List UInt8} {s s' : Vehicle}
    (h : Node.act.Serves maskRequest s resp s') : resp = [0x7F, 0x19, 0x13] := by
  obtain ⟨hact, hresp⟩ := h
  exact understands_act.mask resp ⟨s.act, hact ▸ hresp⟩

theorem body_refuses {resp : List UInt8} {s s' : Vehicle}
    (h : Node.body.Serves maskRequest s resp s') : resp = [0x7F, 0x19, 0x13] := by
  obtain ⟨inp, hfree, hbody, hresp⟩ := h
  exact understands_body.mask resp ⟨inp, s.body, hfree, hbody ▸ hresp⟩

/-- Both rounds. -/
theorem scanEcus_ends {clients : Clients W}
    (hlinked : ∀ n, Linked state fails n (client clients n)) (w : W) :
    Ends (scanMainRoutedEcus clients.act clients.body) w
      (fun r _ => List.Forall₂ Codeless [actTarget, bodyTarget] r.ecus)
      fun _ _ => fails .act ∨ fails .body := by
  have hact := scanEcu_ends (n := .act) (t := actTarget) rfl rfl rfl
    (fun resp s s' => act_refuses) (hlinked .act) w
  refine Ends.bind (hact.mono (fun _ _ _ ha => ha) fun _ _ _ he => Or.inl he)
    fun act w' _ hact => ?_
  have hbody := scanEcu_ends (n := .body) (t := bodyTarget) rfl rfl rfl
    (fun resp s s' => body_refuses) (hlinked .body) w'
  refine Ends.bind (hbody.mono (fun _ _ _ hb => hb) fun _ _ _ he => Or.inr he)
    fun body w'' _ hbody => ?_
  exact Ends.pure (.cons hact (.cons hbody .nil))

end Ecus

/-! ## The scan -/

/-- A section is as `P` says, or `F` holds where it could not be made. -/
def InSection {α : Type} (F : Prop) (P : α → Prop) : Except Raised α → Prop
  | .ok r => P r
  | .error _ => F

theorem InSection.imp {α : Type} {F : Prop} {P Q : α → Prop} {r : Except Raised α}
    (h : InSection F P r) (hPQ : ∀ a, P a → Q a) : InSection F Q r := by
  cases r with
  | ok a => exact hPQ a h
  | error e => exact h

/-- The codes that a section shows; none if it could not be made. -/
def shown : Except Raised SectionResult → List DtcItem
  | .ok r => r.dtcs.items
  | .error _ => []

section Scan

variable {W : Type} [Preorder W] {state : W → Vehicle} {fails : Node → Prop}

theorem attempt_ends {α : Type} {x : Talk W Raised α} {w : W} {P : α → W → Prop} {F : Prop}
    {R : Raised → W → Prop} (hx : Ends x w P fun _ _ => F) :
    Ends (attempt x) w (fun r w' => InSection F (fun a => P a w') r) R :=
  hx.onError (fun _ _ _ ha => Ends.pure ha) fun _ _ _ he => Ends.pure he

/-- What the three sections say of the time of the scan. -/
structure ScanTruth (state : W → Vehicle) (fails : Node → Prop) (w w' : W) (scan : FullScan) :
    Prop where
  media : InSection (fails .media) (MediaTruth state w w') scan.media
  main : InSection (fails .main) (MainTruth state w w') scan.mainRouting
  ecus : InSection (fails .act ∨ fails .body)
    (fun r => List.Forall₂ Codeless [actTarget, bodyTarget] r.ecus) scan.mainEcus

theorem runFullScan_ends {clients : Clients W}
    (hlinked : ∀ n, Linked state fails n (client clients n)) (w : W) :
    Ends (runFullScan clients) w (fun scan w' => ScanTruth state fails w w' scan)
      fun _ _ => False := by
  have hmedia := scanMediaPi_ends (hlinked .media) w
  refine Ends.bind (attempt_ends hmedia) fun media w₁ h₁ hmedia => ?_
  have hmain := testMainRoutingActivation_ends (hlinked .main) w₁
  refine Ends.bind (attempt_ends hmain) fun main w₂ h₂ hmain => ?_
  refine Ends.bind (attempt_ends (scanEcus_ends hlinked w₂)) fun ecus w₃ h₃ hecus => ?_
  refine Ends.pure ⟨hmedia.imp fun r hr => hr.wider (le_refl w) (h₂.trans h₃),
    hmain.imp fun r hr => hr.wider h₁ h₃, hecus⟩

/-- **THE FULL SCAN SHOWS WHAT WAS TRUE WHILE IT RAN**, for every vehicle that goes on meanwhile
    and whatever links fail.  It always ends with its three sections, and only a link that may fail
    leaves one out.  Every row of MEDIA and of MAIN was true at a moment of the scan, and their
    codes are those that were stored at one moment, MEDIA's the latest first.  ACT and BODY are
    shown offline and without codes, also when they answer. -/
theorem full_scan {clients : Clients W}
    (hlinked : ∀ n, Linked state fails n (client clients n)) (w : W) :
    ∃ scan w', runFullScan clients w = (.ok scan, w') ∧ w ≤ w' ∧
      InSection (fails .media) (MediaTruth state w w') scan.media ∧
      InSection (fails .main) (MainTruth state w w') scan.mainRouting ∧
      InSection (fails .act ∨ fails .body)
        (fun r => List.Forall₂ Codeless [actTarget, bodyTarget] r.ecus) scan.mainEcus := by
  obtain ⟨scan, w', hrun, hle, htruth⟩ := (runFullScan_ends hlinked w).value
  exact ⟨scan, w', hrun, hle, htruth.media, htruth.main, htruth.ecus⟩

/-- A vehicle without its rear camera. -/
theorem full_scan_started :
    ∃ scan w', runFullScan links started = (.ok scan, w') ∧
      InSection False (MediaTruth History.now started w') scan.media := by
  obtain ⟨scan, w', hrun, -, hmedia, -, -⟩ := full_scan linked_links started
  have hno : (Node.media = Node.main) = False := eq_false (by decide)
  exact ⟨scan, w', hrun, hno ▸ hmedia⟩

end Scan

end FullScanTruth
