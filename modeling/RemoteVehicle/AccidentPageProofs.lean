import RemoteVehicle.AccidentListProofs

/-!
# What the accident page plays

A card of the page has two players, one for the camera in front and one for the camera behind.
Both take the same URL: the list has one for each accident, and the page uses it for whatever is
missing.  `loadVideo_videoUrl` follows that URL to a file.
-/

namespace AccidentPage

open AccidentList Calendar EventCycle MediaHistory MediaTrigger PcBackend Runs

/-! ## Paths -/

theorem digitChar_ne_slash : ∀ i < 10, i.digitChar ≠ '/' := by decide

theorem slash_not_mem_pad2 {n : Nat} (h : n < 100) : '/' ∉ pad2 n := by
  rw [pad2, List.mem_cons, List.mem_singleton]
  rintro (hten | hone)
  · exact digitChar_ne_slash _ (by omega) hten.symm
  · exact digitChar_ne_slash _ (by omega) hone.symm

theorem slash_not_mem_stamp {d : DateTime} (h : d.InRange) : '/' ∉ stamp d := by
  have hyear := h.year
  have hscore : '/' ≠ '_' := by decide
  have hcentury : '/' ∉ pad2 (d.year / 100) := slash_not_mem_pad2 (by omega)
  have hrest : '/' ∉ pad2 (d.year % 100) := slash_not_mem_pad2 (by omega)
  simp only [stamp, pad4, List.mem_append, List.mem_cons, hcentury, hrest, hscore,
    slash_not_mem_pad2 h.month, slash_not_mem_pad2 h.day, slash_not_mem_pad2 h.hour,
    slash_not_mem_pad2 h.minute, slash_not_mem_pad2 h.second, or_self, not_false_eq_true]

/-- **The name of an event is one part of a path.** -/
theorem eventId_segment {utcOffset : Int} {t : ℚ} {id : String}
    (h : eventIdOf utcOffset t = some id) : '/' ∉ id.toList ∧ id ≠ "" := by
  obtain ⟨d, hd, rfl⟩ := Option.map_eq_some_iff.mp h
  obtain ⟨hrange, -, -⟩ := fromTimestamp_inv hd
  rw [String.toList_ofList]
  refine ⟨slash_not_mem_stamp hrange, fun hempty => ?_⟩
  have hlist := congrArg String.toList hempty
  rw [String.toList_ofList] at hlist
  cases hlist

theorem segments_path {id : String} (h : '/' ∉ id.toList) :
    segments (String.ofList ("/events/".toList ++ id.toList ++ "/video/usb".toList)) =
      ["", "events", id, "video", "usb"] := by
  have hpath : "/events/".toList ++ id.toList ++ "/video/usb".toList =
      ['/'].intercalate ["".toList, "events".toList, id.toList, "video".toList, "usb".toList] := by
    simp [List.intercalate]
  have hparts : ∀ l ∈ ["".toList, "events".toList, id.toList, "video".toList, "usb".toList],
      '/' ∉ l := by
    intro l hl
    simp only [List.mem_cons, List.not_mem_nil, or_false] at hl
    rcases hl with rfl | rfl | rfl | rfl | rfl
    · decide
    · decide
    · exact h
    · decide
    · decide
  rw [segments, String.toList_ofList, hpath, List.splitOn_intercalate '/' hparts (by simp)]
  simp only [List.map_cons, List.map_nil, String.ofList_toList]

/-- The path of a URL of the list leads to the camera behind. -/
theorem routeOf_path {id : String} (h : '/' ∉ id.toList) (hne : id ≠ "") :
    routeOf (String.ofList ("/events/".toList ++ id.toList ++ "/video/usb".toList)) =
      some (.videoEventUsb id) := by
  rw [routeOf, segments_path h]
  exact if_neg hne

/-- **Where a URL of the list leads.** -/
theorem loadVideo_videoUrl (files : String → Bool) (eventsDir : String) {id : String}
    (h : '/' ∉ id.toList) (hne : id ≠ "") :
    loadVideo files eventsDir (videoUrl id) = videoEventUsb files eventsDir id := by
  have hurl : (videoUrl id).toList =
      streamerOrigin.toList ++ ("/events/".toList ++ id.toList ++ "/video/usb".toList) := by
    simp only [videoUrl, String.toList_append, List.append_assoc]
  rw [loadVideo, hurl, if_pos (List.prefix_append _ _), List.drop_left, routeOf_path h hne]

/-! ## Cards -/

/-- The page of an answer about the own vehicle. -/
theorem cards_ok (accidents : List Accident) :
    (fetchAccidents (getAccidents (some ⟨.ok, accidents⟩))).cards =
      accidents.map fun a => cardOf a.toJson := by
  have hcards : (fetchAccidents (getAccidents (some ⟨.ok, accidents⟩))).cards =
      (accidents.map Accident.toJson).map cardOf := rfl
  rw [hcards, List.map_map]
  rfl

theorem cards_empty : (fetchAccidents (getAccidents (some ⟨.empty, []⟩))).cards = [] := rfl

theorem videoUrl_ne (id : String) : videoUrl id ≠ "" := by
  intro hempty
  have hlist := congrArg String.toList hempty
  rw [videoUrl, String.toList_append, String.toList_append, String.toList_append] at hlist
  cases hlist

/-- A card: both players have the URL of the entry. -/
theorem cardOf_entry (id : Nat) (time : String) {url : String} (h : url ≠ "") :
    cardOf (Accident.toJson ⟨id, time, 1, url⟩) =
      ⟨.str time, "주행 중", .str url, .str url⟩ := by
  have htruthy : truthy (.str url) = true := bne_iff_ne.mpr h
  have hone : getDrivingStateText (.num ((1 : Nat) : ℚ)) = "주행 중" := by
    rw [getDrivingStateText, if_pos Nat.cast_one]
  have hurl : jsOr (jsOr .null (.str url)) (.str "") = .str url := by
    have hsecond : jsOr .null (.str url) = .str url := rfl
    rw [hsecond, jsOr, if_pos htruthy]
  show Card.mk (.str time) (getDrivingStateText (.num ((1 : Nat) : ℚ)))
    (jsOr (jsOr .null (.str url)) (.str "")) (jsOr (jsOr .null (.str url)) (.str "")) = _
  rw [hone, hurl]

/-- What a player of a card finds: the clip of the camera behind, from the directory of the
    event, converted if it has been. -/
def rearClip (files : String → Bool) (r : EventRow) : Served :=
  if files (eventFile r.eventDir "usb_clip.mp4") then
    .file (eventFile r.eventDir "usb_clip.mp4") "video/mp4"
  else if files (eventFile r.eventDir "usb_clip.avi") then
    .file (eventFile r.eventDir "usb_clip.avi") "video/x-msvideo"
  else .notFound

/-- **BOTH PLAYERS SHOW THE CAMERA BEHIND**, for every accident, in every run of the blackbox and
    whatever files there are.  When the query has not raised and its answer has arrived, the page
    shows the newest fifty events, the newest first, and both players of a card, the one for the
    front included, load the rear clip of its event. -/
theorem accident_page (cfg : Config) (loads : List UInt8 → Option Json) (clock : ℚ)
    (es : List HistoryEvent) (request : List UInt8) (files : String → Bool) (hclock : 0 ≤ clock)
    (hzone : -86400 < cfg.utcOffset) (hrequest : Asks loads request)
    (hes : AllSteps (historyStep cfg) Onward (EventSystem.initial clock) es) :
    let rows := (historyRun cfg clock es).box.rows
    let page := fetchAccidents (getAccidents
      (some (getRecordList loads cfg.utcOffset false rows request)))
    page.cards.length = min 50 rows.length ∧
      ∀ (k : Nat) (card : Card), page.cards[k]? = some card →
        ∃ r d url, rows[rows.length - 1 - k]? = some r ∧
          localTime cfg.utcOffset r.triggeredAt = some d ∧
          card = ⟨.str (timeText d), "주행 중", .str url, .str url⟩ ∧
          loadVideo files cfg.eventsDir url = rearClip files r := by
  intro rows page
  have h := chronicle_run cfg clock hes
  have hanswer : getRecordList loads cfg.utcOffset false rows request =
      accidentList cfg.utcOffset (newestRows 50 rows) := by
    rcases @getRecordList_cases loads request cfg.utcOffset false rows with
      ⟨hread, -⟩ | ⟨-, hself, -⟩ | ⟨-, -, hcase⟩
    · obtain ⟨v, hv, hnone, -⟩ := hrequest
      rw [hread v hv] at hnone
      cases hnone
    · exact absurd hrequest hself
    · exact hcase
  by_cases hrows : rows = []
  · have hcards : page.cards = [] := by
      have hnothing : newestRows 50 rows = [] := by
        rw [hrows]
        rfl
      have hpage : page = fetchAccidents (getAccidents (some ⟨.empty, []⟩)) := by
        show fetchAccidents (getAccidents
          (some (getRecordList loads cfg.utcOffset false rows request))) = _
        rw [hanswer, accidentList, if_pos hnothing]
      rw [hpage]
      exact cards_empty
    rw [hcards, hrows]
    refine ⟨rfl, fun k card hk => ?_⟩
    cases hk
  · obtain ⟨accidents, hlist, hcount, hnewest⟩ := accidentList_eq h hclock hzone hrows
    have hcards : page.cards = accidents.map fun a => cardOf a.toJson := by
      have hpage : page = fetchAccidents (getAccidents (some ⟨.ok, accidents⟩)) := by
        show fetchAccidents (getAccidents
          (some (getRecordList loads cfg.utcOffset false rows request))) = _
        rw [hanswer, hlist]
      rw [hpage]
      exact cards_ok accidents
    rw [hcards, List.length_map]
    refine ⟨hcount, fun k card hk => ?_⟩
    rw [List.getElem?_map] at hk
    obtain ⟨a, ha, rfl⟩ := Option.map_eq_some_iff.mp hk
    obtain ⟨r, d, hr, hd, rfl⟩ := hnewest k a ha
    obtain ⟨hid, hdir, -⟩ := h.filed r (List.mem_of_getElem? hr)
    obtain ⟨hslash, hne⟩ := eventId_segment hid
    refine ⟨r, d, videoUrl r.eventId, hr, hd, cardOf_entry _ _ (videoUrl_ne r.eventId), ?_⟩
    rw [loadVideo_videoUrl files cfg.eventsDir hslash hne, rearClip, hdir]
    rfl

/-- The page after two events. -/
def restartedPage : AccidentPage :=
  fetchAccidents (getAccidents (some (getRecordList ownRequest allRecorders.utcOffset false
    (historyRun allRecorders 0 restartedHistory).box.rows [0x7B])))

/-- The first card of it. -/
theorem accident_page_restarted :
    ∃ card, restartedPage.cards[0]? = some card ∧ card.front = card.rear := by
  obtain ⟨hcount, hcards⟩ := accident_page allRecorders ownRequest 0 restartedHistory [0x7B]
    (fun _ => true) (by decide) (by decide) ⟨.num 1, rfl, rfl, rfl⟩ (by decide +kernel)
  have hlength : (historyRun allRecorders 0 restartedHistory).box.rows.length = 2 := by
    decide +kernel
  have hcount : restartedPage.cards.length = 2 := by
    rw [hlength] at hcount
    exact hcount
  obtain ⟨card, hcard⟩ : ∃ card, restartedPage.cards[0]? = some card :=
    ⟨_, List.getElem?_eq_getElem (by rw [hcount]; decide)⟩
  obtain ⟨r, d, url, -, -, heq, -⟩ := hcards 0 card hcard
  exact ⟨card, hcard, by rw [heq]⟩

end AccidentPage
