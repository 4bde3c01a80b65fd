import IotMonitoring.Server.HttpServer
import IotMonitoring.Server.TableShape

/-!
# The sensors page

`route_sensors` writes a header with zeros in its cards, then one row a sensor,
counting as it goes, and puts the counts in afterwards: it searches the page for
the cards with the zeros, cuts it there and appends the true cards and the rest.
-/

namespace IotMonitoring

open ByteStrings Binary64
set_option autoImplicit false
set_option maxRecDepth 8000

instance neZeroHttpResponse : NeZero httpResponseMax := ⟨by decide⟩

/-! ## The texts -/

def sensorsHeadCards : List String := [
  "<div class='container'>",
  "<div class='card'>",
  "<div class='card-title'>",
  "<div><div class='eyebrow'>Inventario de campo</div><h2>Sensores registrados</h2>",
  "<p>Vista de estado, &uacute;ltimo valor reportado y nivel de alerta por dispositivo.</p></div>",
  "<span class='badge badge-accent'>Tabla operativa</span>",
  "</div>",
  "<div class='stats'>"]

def sensorsHeadTable : List String := [
  "</div>",
  "</div>",
  "<div class='card'>",
  "<div class='table-wrap'><table>",
  "<tr><th>ID</th><th>Tipo</th><th>Estado</th>",
  "<th>&Uacute;ltimo Valor</th><th>Timestamp</th><th>Alerta</th></tr>"]

/-- The three cards with numbers, as the header and `stats_html` write them. -/
def sensorsCards (total active alert : Nat) : Bytes :=
  ascii "<div class='stat-card'><div class='number'>" ++ decimal total ++
    ascii "</div><div class='label'>Registrados</div></div>" ++
    ascii "<div class='stat-card'><div class='number'>" ++ decimal active ++
    ascii "</div><div class='label'>Activos</div></div>" ++
    ascii "<div class='stat-card'><div class='number'>" ++ decimal alert ++
    ascii "</div><div class='label'>En alerta</div></div>"

def sensorsOpen : Bytes :=
  literal ["<!DOCTYPE html><html><head>", "<meta charset='UTF-8'><title>Sensores</title>"] ++
    cssStyle ++ ascii "</head><body>" ++ buildNav ++ literal sensorsHeadCards

/-- The header with the given numbers; the first `snprintf` writes it with zeros. -/
def sensorsHead (total active alert : Nat) : Bytes :=
  sensorsOpen ++ sensorsCards total active alert ++ literal sensorsHeadTable

/-- What `strstr` looks for. -/
def cardsPlaceholder : Bytes := literal [
  "<div class='stat-card'><div class='number'>0</div><div class='label'>Registrados</div></div>",
  "<div class='stat-card'><div class='number'>0</div><div class='label'>Activos</div></div>",
  "<div class='stat-card'><div class='number'>0</div><div class='label'>En alerta</div></div>"]

def statusBadge : SensorStatus → Bytes
  | .active => ascii "<span class='badge badge-active'>ACTIVE</span>"
  | .inactive => ascii "<span class='badge badge-inactive'>INACTIVE</span>"

def alertBadge : AlertLevel → Bytes
  | .normal => ascii "<span class='badge badge-normal'>NORMAL</span>"
  | .alert => ascii "<span class='badge badge-alert'>ALERT</span>"

def sensorRow (s : Sensor) : Bytes :=
  ascii "<tr><td>" ++ s.id.text ++ ascii "</td><td>" ++ sensorTypeToStr s.type ++
    ascii "</td><td>" ++ statusBadge s.status ++ ascii "</td><td>" ++ fixed2 s.lastValue ++
    ascii "</td><td>" ++ s.lastTimestamp.text ++ ascii "</td><td>" ++ alertBadge s.alertLevel ++
    ascii "</td></tr>"

def sensorsTail : Bytes := ascii "</table></div></div></div></body></html>"

def sensorsBudget : Nat := httpResponseMax - 512

/-! ## The loop -/

structure SensorsLoop where
  offset : Nat
  totalSensors : Nat
  activeSensors : Nat
  alertSensors : Nat
  /-- The calls of `snprintf` so far. -/
  calls : List Call

def SensorsLoop.showSensor (st : SensorsLoop) (s : Sensor) : SensorsLoop where
  offset := st.offset + (sensorRow s).length
  totalSensors := st.totalSensors + 1
  activeSensors := if s.status = .active then st.activeSensors + 1 else st.activeSensors
  alertSensors := if s.alertLevel = .alert then st.alertSensors + 1 else st.alertSensors
  calls := st.calls ++ [⟨st.offset, sensorRow s⟩]

/-- The loop over the remaining slots. -/
def sensorsLoop : List Sensor → SensorsLoop → SensorsLoop
  | [], st => st
  | s :: slots, st =>
    if st.offset < sensorsBudget then
      if s.active then sensorsLoop slots (st.showSensor s) else sensorsLoop slots st
    else st

/-- After the header, which writes zeros. -/
def sensorsStart : SensorsLoop where
  offset := (sensorsHead 0 0 0).length
  totalSensors := 0
  activeSensors := 0
  alertSensors := 0
  calls := [⟨0, sensorsHead 0 0 0⟩]

/-- The critical section. -/
def scanSensors (g : GlobalState) : SensorsLoop :=
  sensorsLoop (List.ofFn g.sensors) sensorsStart

/-! ## The cards put in afterwards -/

/-- The `char[1024]` with the true numbers. -/
def statsHtml (st : SensorsLoop) : Bytes :=
  snprintf 1024 (sensorsCards st.totalSensors st.activeSensors st.alertSensors)

/-- The text of `body` and the offset after the search, the cut and the two concatenations. -/
def putStats (st : SensorsLoop) (body : Bytes) : Bytes × Nat :=
  match strstr body cardsPlaceholder with
  | none => (body, st.offset)
  | some statsPos =>
    let tail : Buffer httpResponseMax := safeStrncpy (statsPos.drop cardsPlaceholder.length)
    let cut := body.take (body.length - statsPos.length)
    let joined := strncat httpResponseMax (strncat httpResponseMax cut (statsHtml st)) tail.text
    (joined, joined.length)

def sensorsBody (st : SensorsLoop) : Option Bytes := do
  let body ← page httpResponseMax st.calls
  let joined := putStats st body
  Call.write httpResponseMax joined.1 ⟨joined.2, sensorsTail⟩

def routeSensors : Program GlobalState (Option Bytes) := do
  let st ← Program.call fun g => (scanSensors g, g)
  pure (sensorsBody st)

/-! ## Lengths -/

theorem sensorsHeadCards_length : (literal sensorsHeadCards).length = 319 := by
  apply Eq.trans
  · repeat apply literal_length_cons
    exact literal_length_nil
  · decide

theorem sensorsHeadTable_length : (literal sensorsHeadTable).length = 170 := by
  apply Eq.trans
  · repeat apply literal_length_cons
    exact literal_length_nil
  · decide

theorem sensorsOpen_length : sensorsOpen.length = 6859 := by
  have hopen : (literal ["<!DOCTYPE html><html><head>",
      "<meta charset='UTF-8'><title>Sensores</title>"]).length = 72 := by decide
  simp only [sensorsOpen, List.length_append, hopen, cssStyle_length, openBody_length,
    buildNav_length, sensorsHeadCards_length]

theorem sensorsCards_length (total active alert : Nat) : (sensorsCards total active alert).length =
    267 + (decimal total).length + (decimal active).length + (decimal alert).length := by
  have hopen : (ascii "<div class='stat-card'><div class='number'>").length = 43 := by decide
  have htotal : (ascii "</div><div class='label'>Registrados</div></div>").length = 48 := by decide
  have hactive : (ascii "</div><div class='label'>Activos</div></div>").length = 44 := by decide
  have halert : (ascii "</div><div class='label'>En alerta</div></div>").length = 46 := by decide
  simp only [sensorsCards, List.length_append, hopen, htotal, hactive, halert]
  omega

theorem statusBadge_length_le (status : SensorStatus) : (statusBadge status).length ≤ 50 := by
  cases status <;> decide

theorem alertBadge_length_le (level : AlertLevel) : (alertBadge level).length ≤ 46 := by
  cases level <;> decide

theorem sensorTypeToStr_length_le (type : SensorType) : (sensorTypeToStr type).length ≤ 7 := by
  cases type <;> decide

theorem sensorRow_length_le (s : Sensor) : (sensorRow s).length ≤ 573 := by
  have hid : s.id.text.length < 64 := s.id.length_lt
  have htype := sensorTypeToStr_length_le s.type
  have hstatus := statusBadge_length_le s.status
  have hvalue := fixed2_length_le s.lastValue
  have htime : s.lastTimestamp.text.length < 32 := s.lastTimestamp.length_lt
  have halert := alertBadge_length_le s.alertLevel
  simp only [sensorRow, List.length_append, openRow_length, nextCell_length, closeRow_length]
  omega

theorem sensorsTail_length : sensorsTail.length = 40 := by decide

/-! ## The search -/

/-- The first bytes of a card with a number: `<div class='stat-`. -/
def cardStart : Bytes := [60, 100, 105, 118, 32, 99, 108, 97, 115, 115, 61, 39, 115, 116, 97, 116, 45]

theorem cssStyle_skipped : Skipped cardStart cssStyle := by
  unfold cssStyle
  apply Skipped.append
  apply Skipped.append
  · refine skipped_literal_cons ?_ (by decide)
    repeat refine skipped_literal_text ?_ (by decide)
    exact skipped_literal_nil _
  · repeat refine skipped_literal_text ?_ (by decide)
    exact skipped_literal_nil _
  · repeat refine skipped_literal_text ?_ (by decide)
    refine skipped_literal_cons ?_ (by decide)
    exact skipped_literal_nil _

theorem buildNav_skipped : Skipped cardStart buildNav := by
  rw [buildNav, snprintf_of_fits (by rw [navText_length]; decide)]
  repeat refine skipped_literal_cons ?_ (by decide)
  exact skipped_literal_nil _

theorem sensorsHeadCards_skipped : Skipped cardStart (literal sensorsHeadCards) := by
  repeat refine skipped_literal_cons ?_ (by decide)
  exact skipped_literal_nil _

/-- No card begins before the cards. -/
theorem sensorsOpen_skipped : Skipped cardStart sensorsOpen := by
  have hopen : Skipped cardStart (literal ["<!DOCTYPE html><html><head>",
      "<meta charset='UTF-8'><title>Sensores</title>"]) := by
    repeat refine skipped_literal_cons ?_ (by decide)
    exact skipped_literal_nil _
  have hbody : Skipped cardStart (ascii "</head><body>") := skipped_of_differs (by decide)
  unfold sensorsOpen
  exact (((hopen.append cssStyle_skipped).append hbody).append buildNav_skipped).append
    sensorsHeadCards_skipped

theorem cardsPlaceholder_eq : cardsPlaceholder = sensorsCards 0 0 0 := by
  rw [← List.append_nil (sensorsCards 0 0 0)]
  simp only [sensorsCards, List.append_assoc]
  have hzero : decimal 0 = [48] := by decide
  rw [hzero]
  refine literal_cons_split '0' ?_ (literal_cons_split '0' ?_ (literal_cons_split '0' ?_ rfl))
  all_goals decide

theorem cardsPlaceholder_start :
    cardsPlaceholder = cardStart ++ cardsPlaceholder.drop cardStart.length := by
  have hstarts : cardStart <+: cardsPlaceholder := startsWith_literal_cons (by decide)
  exact (List.prefix_iff_eq_append.mp hstarts).symm

/-- Whatever follows, the search finds the cards of the header. -/
theorem strstr_cardsPlaceholder (rest : Bytes) :
    strstr (sensorsHead 0 0 0 ++ rest) cardsPlaceholder =
      some (cardsPlaceholder ++ (literal sensorsHeadTable ++ rest)) := by
  have hfound := strstr_of_skipped sensorsOpen_skipped (cardsPlaceholder.drop cardStart.length)
    (literal sensorsHeadTable ++ rest)
  rw [← cardsPlaceholder_start] at hfound
  rw [sensorsHead, ← cardsPlaceholder_eq]
  simp only [List.append_assoc] at hfound ⊢
  exact hfound

/-! ## The loop runs to its end -/

/-- The occupied slots, in slot order. -/
def occupied (g : GlobalState) : List Sensor := (List.ofFn g.sensors).filter (·.active)

def alerting (g : GlobalState) : Nat :=
  (occupied g).countP fun s => decide (s.alertLevel = .alert)

/-- A loop that never reaches the budget visits every slot. -/
theorem sensorsLoop_eq {slots : List Sensor} {st : SensorsLoop}
    (hroom : st.offset + totalLength ((slots.filter (·.active)).map sensorRow) < sensorsBudget) :
    sensorsLoop slots st = {
      offset := st.offset + totalLength ((slots.filter (·.active)).map sensorRow)
      totalSensors := st.totalSensors + (slots.filter (·.active)).length
      activeSensors := st.activeSensors +
        (slots.filter (·.active)).countP fun s => decide (s.status = .active)
      alertSensors := st.alertSensors +
        (slots.filter (·.active)).countP fun s => decide (s.alertLevel = .alert)
      calls := st.calls ++ callsFrom st.offset ((slots.filter (·.active)).map sensorRow) } := by
  induction slots generalizing st with
  | nil =>
    have hcalls : callsFrom st.offset [] = [] := rfl
    simp only [sensorsLoop, List.filter_nil, List.map_nil, totalLength, List.sum_nil,
      List.length_nil, List.countP_nil, hcalls, List.append_nil, Nat.add_zero]
  | cons s slots ih =>
    have hstart : st.offset < sensorsBudget := Nat.lt_of_le_of_lt (Nat.le_add_right _ _) hroom
    rw [sensorsLoop, if_pos hstart]
    cases hactive : s.active with
    | false =>
      have hskip : (s :: slots).filter (·.active) = slots.filter (·.active) := by
        rw [List.filter_cons, hactive, if_neg Bool.false_ne_true]
      rw [hskip] at hroom ⊢
      rw [if_neg Bool.false_ne_true]
      exact ih hroom
    | true =>
      have hkeep : (s :: slots).filter (·.active) = s :: slots.filter (·.active) := by
        rw [List.filter_cons, hactive, if_pos rfl]
      rw [hkeep, List.map_cons, totalLength_cons] at hroom ⊢
      have hnext : (st.showSensor s).offset +
          totalLength ((slots.filter (·.active)).map sensorRow) < sensorsBudget := by
        simp only [SensorsLoop.showSensor]
        omega
      rw [if_pos rfl, ih hnext]
      simp only [SensorsLoop.showSensor, List.countP_cons, List.length_cons, callsFrom,
        List.append_assoc, List.singleton_append, SensorsLoop.mk.injEq, decide_eq_true_eq,
        and_true]
      refine ⟨by omega, by omega, ?_, ?_⟩
      · split <;> omega
      · split <;> omega

theorem occupied_length_le (g : GlobalState) : (occupied g).length ≤ 64 := by
  have hfilter := List.length_filter_le (fun s : Sensor => s.active) (List.ofFn g.sensors)
  rw [List.length_ofFn] at hfilter
  exact hfilter

theorem rows_length_le (g : GlobalState) :
    totalLength ((occupied g).map sensorRow) ≤ 64 * 573 := by
  have hrows : ∀ row ∈ (occupied g).map sensorRow, row.length ≤ 573 := by
    intro row hrow
    obtain ⟨s, -, rfl⟩ := List.mem_map.mp hrow
    exact sensorRow_length_le s
  have htotal := totalLength_le hrows
  rw [List.length_map] at htotal
  exact Nat.le_trans htotal (Nat.mul_le_mul_right 573 (occupied_length_le g))

theorem sensorsHead_length (total active alert : Nat) : (sensorsHead total active alert).length =
    7296 + (decimal total).length + (decimal active).length + (decimal alert).length := by
  simp only [sensorsHead, List.length_append, sensorsOpen_length, sensorsCards_length,
    sensorsHeadTable_length]
  omega

theorem sensorsHead_zeros : (sensorsHead 0 0 0).length = 7299 := by
  have hdigits : (decimal 0).length = 1 := by decide
  rw [sensorsHead_length, hdigits]

/-- 64 rows of 573 bytes end far below the budget. -/
theorem scanSensors_eq (g : GlobalState) : scanSensors g = {
    offset := (sensorsHead 0 0 0).length + totalLength ((occupied g).map sensorRow)
    totalSensors := (occupied g).length
    activeSensors := (occupied g).countP fun s => decide (s.status = .active)
    alertSensors := alerting g
    calls := callsFrom 0 (sensorsHead 0 0 0 :: (occupied g).map sensorRow) } := by
  have hrows := rows_length_le g
  have hroom : sensorsStart.offset + totalLength ((occupied g).map sensorRow) < sensorsBudget := by
    have hstart : sensorsStart.offset = 7299 := sensorsHead_zeros
    have hbudget : sensorsBudget = 65024 := rfl
    rw [hstart, hbudget]
    omega
  have hloop := sensorsLoop_eq hroom
  simp only [sensorsStart, Nat.zero_add] at hloop
  rw [scanSensors, sensorsStart]
  rw [callsFrom, Nat.zero_add]
  exact hloop

/-! ## The splice -/

theorem sensorRow_noZero (s : Sensor) : (0 : UInt8) ∉ sensorRow s := by
  have hmarks : (0 : UInt8) ∉ ascii "<tr><td>" ∧ (0 : UInt8) ∉ ascii "</td><td>" ∧
      (0 : UInt8) ∉ ascii "</td></tr>" := by decide
  have htype : (0 : UInt8) ∉ sensorTypeToStr s.type := by cases s.type <;> decide
  have hstatus : (0 : UInt8) ∉ statusBadge s.status := by cases s.status <;> decide
  have halert : (0 : UInt8) ∉ alertBadge s.alertLevel := by cases s.alertLevel <;> decide
  have hvalue : (0 : UInt8) ∉ fixed2 s.lastValue := by
    intro h
    exact absurd (fixed2_bytes h).1 (by decide)
  simp only [sensorRow, List.mem_append, hmarks, htype, hstatus, halert, hvalue,
    s.id.zero_notMem, s.lastTimestamp.zero_notMem, or_self, not_false_eq_true]

theorem sensorsHeadTable_noZero : (0 : UInt8) ∉ literal sensorsHeadTable := by
  repeat refine zero_notMem_literal_cons ?_ (by decide)
  exact zero_notMem_literal_nil

/-- Short numbers and rows without zero bytes are put together again without a loss. -/
theorem putStats_eq {st : SensorsLoop} {rest : Bytes} (hrest : (0 : UInt8) ∉ rest)
    (hcards : (sensorsCards st.totalSensors st.activeSensors st.alertSensors).length ≤ 273)
    (hlen : rest.length ≤ 64 * 573) :
    putStats st (sensorsHead 0 0 0 ++ rest) =
      (sensorsHead st.totalSensors st.activeSensors st.alertSensors ++ rest,
        (sensorsHead st.totalSensors st.activeSensors st.alertSensors ++ rest).length) := by
  have hstats : statsHtml st =
      sensorsCards st.totalSensors st.activeSensors st.alertSensors :=
    snprintf_of_fits (Nat.lt_of_le_of_lt hcards (by decide))
  have htail : (safeStrncpy (literal sensorsHeadTable ++ rest) : Buffer httpResponseMax).text =
      literal sensorsHeadTable ++ rest := by
    apply Buffer.copy_text_of_fits
    · rw [List.length_append, sensorsHeadTable_length]
      simp only [httpResponseMax]
      omega
    · rw [List.mem_append, not_or]
      exact ⟨sensorsHeadTable_noZero, hrest⟩
  have hbody : sensorsHead 0 0 0 ++ rest =
      sensorsOpen ++ (cardsPlaceholder ++ (literal sensorsHeadTable ++ rest)) := by
    simp only [sensorsHead, cardsPlaceholder_eq, List.append_assoc]
  have hcut : (sensorsHead 0 0 0 ++ rest).take ((sensorsHead 0 0 0 ++ rest).length -
      (cardsPlaceholder ++ (literal sensorsHeadTable ++ rest)).length) = sensorsOpen := by
    rw [hbody, List.length_append, Nat.add_sub_cancel, List.take_left]
  have hfirst : sensorsOpen.length +
      (sensorsCards st.totalSensors st.activeSensors st.alertSensors).length < httpResponseMax := by
    rw [sensorsOpen_length]
    simp only [httpResponseMax]
    omega
  have hsecond : (sensorsOpen ++ sensorsCards st.totalSensors st.activeSensors
      st.alertSensors).length + (literal sensorsHeadTable ++ rest).length < httpResponseMax := by
    rw [List.length_append, List.length_append, sensorsOpen_length, sensorsHeadTable_length]
    simp only [httpResponseMax]
    omega
  have hjoined : strncat httpResponseMax (strncat httpResponseMax sensorsOpen (statsHtml st))
      (literal sensorsHeadTable ++ rest) =
        sensorsHead st.totalSensors st.activeSensors st.alertSensors ++ rest := by
    rw [hstats, strncat_of_fits hfirst, strncat_of_fits hsecond, sensorsHead]
    simp only [List.append_assoc]
  rw [putStats, strstr_cardsPlaceholder]
  simp only [List.drop_left, htail, hcut, hjoined]

theorem sensorsBody_of_page {st : SensorsLoop} {body : Bytes}
    (h : page httpResponseMax st.calls = some body) : sensorsBody st =
      Call.write httpResponseMax (putStats st body).1 ⟨(putStats st body).2, sensorsTail⟩ := by
  rw [sensorsBody, h]
  rfl

/-- The page with the numbers of the loop, all rows and the closing tags. -/
theorem sensorsBody_eq {st : SensorsLoop} {rows : Bytes}
    (hpage : page httpResponseMax st.calls = some (sensorsHead 0 0 0 ++ rows))
    (hrows : (0 : UInt8) ∉ rows) (hlen : rows.length ≤ 64 * 573)
    (hcards : (sensorsCards st.totalSensors st.activeSensors st.alertSensors).length ≤ 273) :
    sensorsBody st = some (sensorsHead st.totalSensors st.activeSensors st.alertSensors ++ rows ++
      sensorsTail) := by
  have hput := putStats_eq hrows hcards hlen
  have hend : (sensorsHead st.totalSensors st.activeSensors st.alertSensors ++ rows).length +
      sensorsTail.length < httpResponseMax := by
    rw [sensorsCards_length] at hcards
    rw [List.length_append, sensorsHead_length, sensorsTail_length]
    simp only [httpResponseMax]
    omega
  rw [sensorsBody_of_page hpage, hput]
  exact write_at_end hend

theorem two_digits {k : Nat} (h : k ≤ 64) : (decimal k).length ≤ 2 :=
  decimal_length_le (by omega) (by omega)

theorem scan_calls (g : GlobalState) : (scanSensors g).calls =
    callsFrom 0 (sensorsHead 0 0 0 :: (occupied g).map sensorRow) :=
  congrArg SensorsLoop.calls (scanSensors_eq g)

theorem scan_page (g : GlobalState) : page httpResponseMax (scanSensors g).calls =
    some (sensorsHead 0 0 0 ++ (occupied g).flatMap sensorRow) := by
  have hrows := rows_length_le g
  have hfits : totalLength (sensorsHead 0 0 0 :: (occupied g).map sensorRow) < httpResponseMax := by
    rw [totalLength_cons, sensorsHead_zeros]
    simp only [httpResponseMax]
    omega
  rw [scan_calls, page_of_fits hfits, List.flatten_cons, List.flatMap_def]

theorem scan_body (g : GlobalState) : sensorsBody (scanSensors g) =
    some (sensorsHead (occupied g).length
      ((occupied g).countP fun s => decide (s.status = .active)) (alerting g) ++
      (occupied g).flatMap sensorRow ++ sensorsTail) := by
  have hzero : (0 : UInt8) ∉ (occupied g).flatMap sensorRow := by
    intro h
    obtain ⟨s, -, hmem⟩ := List.mem_flatMap.mp h
    exact sensorRow_noZero s hmem
  have hlen : ((occupied g).flatMap sensorRow).length ≤ 64 * 573 := by
    rw [List.flatMap_def, totalLength_flatten]
    exact rows_length_le g
  have hcards : (sensorsCards (occupied g).length
      ((occupied g).countP fun s => decide (s.status = .active)) (alerting g)).length ≤ 273 := by
    have hcount := occupied_length_le g
    have htotal := two_digits hcount
    have hactive := two_digits (Nat.le_trans (List.countP_le_length
      (p := fun s : Sensor => decide (s.status = .active))) hcount)
    have halert := two_digits (Nat.le_trans (List.countP_le_length
      (p := fun s : Sensor => decide (s.alertLevel = .alert))) hcount)
    rw [sensorsCards_length, alerting]
    omega
  have hpage := scan_page g
  rw [scanSensors_eq] at hpage ⊢
  exact sensorsBody_eq hpage hzero hlen hcards

/-! ## The numbers -/

/-- In a packed table the occupied slots are as many as were registered. -/
theorem occupied_length {g : GlobalState} (h : Shaped g) :
    (occupied g).length = stateGetSensorCount g := by
  have hslots : (List.ofFn g.sensors).countP (·.active) =
      (List.finRange maxSensors).countP fun i => (g.sensors i).active := by
    rw [List.ofFn_eq_map, List.countP_map]
    rfl
  rw [occupied, ← List.countP_eq_length_filter, hslots, stateGetSensorCount]
  exact SlotTable.countP_of_packed h.prefix_iff h.count_le

theorem occupied_active (g : GlobalState) :
    (occupied g).countP (fun s => decide (s.status = .active)) = stateGetActiveSensorCount g := by
  rw [occupied, List.countP_filter, List.ofFn_eq_map, List.countP_map, stateGetActiveSensorCount]
  congr 1
  funext i
  exact Bool.and_comm _ _

/-! ## Every page -/

namespace System
variable {n : Nat}

/-- In every reachable state the loop shows the occupied slots in order, one row each, below the
budget; every call writes its whole text; the search finds the cards of the header; and the page is
the header with the true numbers, the rows and the closing tags. -/
theorem sensors_complete {s : System n} {actions : List (Action n)}
    (hrun : Runs.run step (init n) actions = some s) :
    ((scanSensors s.g).calls =
        callsFrom 0 (sensorsHead 0 0 0 :: (occupied s.g).map sensorRow) ∧
      (scanSensors s.g).offset < sensorsBudget ∧
      ∀ call ∈ (scanSensors s.g).calls, call.offset + call.text.length < httpResponseMax) ∧
    (page httpResponseMax (scanSensors s.g).calls =
        some (sensorsHead 0 0 0 ++ (occupied s.g).flatMap sensorRow) ∧
      strstr (sensorsHead 0 0 0 ++ (occupied s.g).flatMap sensorRow) cardsPlaceholder =
        some (cardsPlaceholder ++ (literal sensorsHeadTable ++
          (occupied s.g).flatMap sensorRow))) ∧
    sensorsBody (scanSensors s.g) =
      some (sensorsHead (stateGetSensorCount s.g) (stateGetActiveSensorCount s.g) (alerting s.g) ++
        (occupied s.g).flatMap sensorRow ++ sensorsTail) := by
  have hrows := rows_length_le s.g
  have hcalls := congrArg SensorsLoop.calls (scanSensors_eq s.g)
  have hoffset := congrArg SensorsLoop.offset (scanSensors_eq s.g)
  have hbudget : sensorsBudget = 65024 := rfl
  simp only at hcalls hoffset
  refine ⟨⟨hcalls, ?_, ?_⟩, ⟨?_, strstr_cardsPlaceholder _⟩, ?_⟩
  · rw [hoffset, hbudget, sensorsHead_zeros]
    omega
  · intro call hcall
    rw [hcalls] at hcall
    have hend := callsFrom_end hcall
    rw [totalLength_cons, sensorsHead_zeros] at hend
    simp only [httpResponseMax]
    omega
  · exact scan_page s.g
  · rw [scan_body, occupied_length (namedOk_run hrun).shaped, occupied_active]

theorem sensors_complete_twoSensors :
    ∃ s : System 1, Runs.run step (init 1)
        [.connect 0, .receive 0 (ascii "REGISTER s1 TEMP"), .proceed 0,
          .receive 0 (ascii "REGISTER s2 VIB"), .proceed 0] = some s ∧
      sensorsBody (scanSensors s.g) =
        some (sensorsHead 2 2 0 ++ (occupied s.g).flatMap sensorRow ++ sensorsTail) := by
  have h : (Runs.run step (init 1)
      [.connect 0, .receive 0 (ascii "REGISTER s1 TEMP"), .proceed 0,
        .receive 0 (ascii "REGISTER s2 VIB"), .proceed 0]).map
      (fun s => (stateGetSensorCount s.g, stateGetActiveSensorCount s.g, alerting s.g)) =
        some (2, 2, 0) := by decide +kernel
  obtain ⟨s, hs, hnumbers⟩ := Option.map_eq_some_iff.mp h
  have hbody := (sensors_complete hs).2.2
  obtain ⟨htotal, hactive, halert⟩ : stateGetSensorCount s.g = 2 ∧
      stateGetActiveSensorCount s.g = 2 ∧ alerting s.g = 0 := by simpa using hnumbers
  rw [htotal, hactive, halert] at hbody
  exact ⟨s, hs, hbody⟩

end System

end IotMonitoring
