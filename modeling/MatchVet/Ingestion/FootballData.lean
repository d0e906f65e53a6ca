import MatchVet.Foundation.CsvReader
import MatchVet.Foundation.Gregorian
import MatchVet.Foundation.Runtime

/-!
# Football-Data results

A Football-Data text is a header row and one row for each match.  The columns of
the policy are found by their normalized names; a row travels through the
dictionary of its raw names, whose values are put under the header again by
position.
-/

namespace MatchVet.Ingestion.FootballData

open MatchVet.Foundation.CsvReader
open MatchVet.Foundation.Dictionary
open MatchVet.Foundation.Gregorian
open MatchVet.Foundation.Runtime
open MatchVet.Foundation.Timestamp

/-- `SourceParseError` with its text, `csv.Error`, and the errors of the runtime. -/
inductive ParseError where
  | source (message : String)
  | csv
  | unexpected
  deriving DecidableEq, Repr

def refuse {α : Type} (message : String) : Except ParseError α := .error (.source message)

/-- `value.is_finite()`, `value < 0` and `format(value, "f")` of a decimal. -/
structure DecimalReading where
  finite : Bool
  negative : Bool
  text : String
  deriving DecidableEq, Repr

/-- Unicode case and digits, `Decimal`, `strptime`, `ZoneInfo` and the text of a local time.  No
text shorter than six characters is a date. -/
class CsvServices where
  casefold : String → String
  upper : String → String
  digit? : Char → Option ℕ
  decimal : String → Option DecimalReading
  strptimeDate : (pattern value : String) → Option ℤ
  strptimeTime : (pattern value : String) → Option ℕ
  date_length : ∀ pattern value, (strptimeDate pattern value).isSome → 6 ≤ value.length
  zoneInfo : String → Option (ℤ → ℕ → ℤ)
  isoLocal : ℤ → ℕ → ℤ → String

export CsvServices (casefold digit? decimal strptimeDate strptimeTime zoneInfo isoLocal)

/-! ## The policy -/

structure LeagueConfig where
  key : String
  name : String
  country : String
  footballDataCode : String
  openfootballCode : Option String
  timezone : String
  deriving DecidableEq, Repr

inductive EvidenceState where
  | observed
  | absent
  | unknown
  deriving DecidableEq, Repr

/-- A row of `_STAT_SPECS`: the header key of the source name, the metric and its unit. -/
structure StatSpec where
  source : String
  metric : String
  unit : String
  deriving DecidableEq, Repr

def statSpecs : List StatSpec :=
  [⟨"fthg", "full_time_home_goals", "goals"⟩, ⟨"ftag", "full_time_away_goals", "goals"⟩,
    ⟨"hthg", "half_time_home_goals", "goals"⟩, ⟨"htag", "half_time_away_goals", "goals"⟩,
    ⟨"hs", "shots_home", "shots"⟩, ⟨"as", "shots_away", "shots"⟩,
    ⟨"hst", "shots_on_target_home", "shots_on_target"⟩,
    ⟨"ast", "shots_on_target_away", "shots_on_target"⟩,
    ⟨"hf", "fouls_home", "fouls"⟩, ⟨"af", "fouls_away", "fouls"⟩,
    ⟨"hc", "corners_home", "corners"⟩, ⟨"ac", "corners_away", "corners"⟩,
    ⟨"hy", "yellow_cards_home", "cards"⟩, ⟨"ay", "yellow_cards_away", "cards"⟩,
    ⟨"hr", "red_cards_home", "cards"⟩, ⟨"ar", "red_cards_away", "cards"⟩]

def resultFields : List (String × String) :=
  [("ftr", "full_time_result"), ("htr", "half_time_result")]

def optionalXgFields : List (String × String) :=
  [("hxg", "home_xg"), ("axg", "away_xg"), ("homexg", "home_xg"), ("awayxg", "away_xg"),
    ("xghome", "home_xg"), ("xgaway", "away_xg")]

def metadataKeys : List String :=
  ["div", "date", "time", "hometeam", "awayteam", "round", "ftr", "htr"]

/-- `_POLICY_HEADER_KEYS`. -/
def policyHeaderKeys : List String :=
  metadataKeys ++ statSpecs.map StatSpec.source ++ optionalXgFields.map Prod.fst

/-! ## Fields -/

inductive FieldValue where
  | int (value : ℕ)
  | str (text : String)
  deriving DecidableEq, Repr

structure ParsedField where
  name : String
  state : EvidenceState
  value : Option FieldValue
  rawValue : Option Cell
  unknownReason : Option String
  evidenceClass : String
  unit : Option String
  deriving DecidableEq, Repr

/-- `raw.strip()`; only texts have it. -/
def stripped : Cell → Except ParseError String
  | .text content => .ok (strip content)
  | _ => .error .unexpected

/-- `raw.strip()` of a text that is there and not blank. -/
def presentText (raw : Option Cell) : Except ParseError (Option String) :=
  match raw with
  | none => .ok none
  | some cell => do
      let value ← stripped cell
      .ok (if value = "" then none else some value)

def unknownField (name : String) (raw : Option Cell) (reason evidenceClass : String) :
    ParsedField :=
  ⟨name, .unknown, none, raw, some reason, evidenceClass, none⟩

section
variable [CsvServices]

/-- `_INTEGER_PATTERN.fullmatch`: digits alone, and one at least. -/
def integerDigits (value : String) : Option (List ℕ) :=
  if value = "" then none else value.toList.mapM digit?

/-- The most digits that `int` reads. -/
def maxStrDigits : ℕ := 4300

def readInteger (digits : List ℕ) : Except ParseError ℕ :=
  if digits.length ≤ maxStrDigits then .ok (digits.foldl (fun total digit => 10 * total + digit) 0)
  else .error .unexpected

/-- `_parse_integer`. -/
def parseInteger (name : String) (raw : Option Cell) : Except ParseError ParsedField := do
  match ← presentText raw with
  | none => .ok (unknownField name raw "SOURCE_MISSING_FIELD" "CORE")
  | some value =>
      match integerDigits value with
      | none => .ok (unknownField name raw "MALFORMED_VALUE" "CORE")
      | some digits => do
          let number ← readInteger digits
          .ok ⟨name, .observed, some (.int number), raw, none, "CORE", some "count"⟩

/-- `_parse_result`. -/
def parseResult (name : String) (raw : Option Cell) : Except ParseError ParsedField := do
  match ← presentText raw with
  | none => .ok (unknownField name raw "SOURCE_MISSING_FIELD" "CORE")
  | some value =>
      let value := CsvServices.upper value
      if value ∈ ["H", "D", "A"] then
        .ok ⟨name, .observed, some (.str value), raw, none, "CORE", none⟩
      else .ok (unknownField name raw "MALFORMED_VALUE" "CORE")

/-- `_parse_decimal`. -/
def parseDecimal (name : String) (raw : Option Cell) : Except ParseError ParsedField := do
  match ← presentText raw with
  | none => .ok (unknownField name raw "SOURCE_MISSING_FIELD" "OPTIONAL_EVIDENCE")
  | some value =>
      match decimal value with
      | none => .ok (unknownField name raw "MALFORMED_VALUE" "OPTIONAL_EVIDENCE")
      | some reading =>
          if !reading.finite || reading.negative then
            .ok (unknownField name raw "MALFORMED_VALUE" "OPTIONAL_EVIDENCE")
          else
            .ok ⟨name, .observed, some (.str reading.text), raw, none, "OPTIONAL_EVIDENCE",
              some "expected_goals"⟩

/-! ## Kickoffs -/

/-- `_parse_date`. -/
def parseDate (raw : Option Cell) : Except ParseError (Option ℤ) := do
  match ← presentText raw with
  | none => .ok none
  | some value =>
      .ok (["%d/%m/%Y", "%d/%m/%y", "%Y-%m-%d"].findSome? (strptimeDate · value))

/-- `_parse_time`. -/
def parseTime (raw : Option Cell) : Except ParseError (Option ℕ) := do
  match ← presentText raw with
  | none => .ok none
  | some value => .ok (["%H:%M", "%H:%M:%S"].findSome? (strptimeTime · value))

/-- `_european_summer_time`. -/
def europeanSummerTime (value : ℤ) : Bool :=
  let year := (civilOfDays value).year
  let marchLast := daysOfCivil ⟨year, 4, 1⟩ - 1
  let octoberLast := daysOfCivil ⟨year, 11, 1⟩ - 1
  let marchStart := marchLast - (weekday marchLast - 6) % 7
  let octoberEnd := octoberLast - (weekday octoberLast - 6) % 7
  marchStart ≤ value && value < octoberEnd

def baseHours : List (String × ℤ) :=
  [("Europe/London", 0), ("Europe/Lisbon", 0), ("Europe/Rome", 1), ("Europe/Madrid", 1),
    ("Europe/Berlin", 1), ("Europe/Paris", 1), ("Europe/Brussels", 1)]

def microsecondsPerHour : ℤ := 3600000000

/-- `_source_timezone`, as the offset of every local time. -/
def sourceTimezone (name : String) (localDate : ℤ) : Except ParseError (ℤ → ℕ → ℤ) :=
  match zoneInfo name with
  | some zone => .ok zone
  | none =>
      match baseHours.lookup name with
      | none => refuse ("Unknown configured timezone " ++ name ++ ".")
      | some hours =>
          .ok fun _ _ =>
            (hours + if europeanSummerTime localDate then 1 else 0) * microsecondsPerHour

structure Kickoff where
  utc : Option Instant
  localDate : Option ℤ
  localText : Option String
  precision : String
  warnings : List String
  deriving DecidableEq, Repr

/-- Is there a text that is not empty? -/
def given : Option Cell → Bool
  | some (.text content) => content ≠ ""
  | some (.rest _) => true
  | _ => false

/-- `_kickoff`. -/
def kickoff (league : LeagueConfig) (dateRaw timeRaw : Option Cell) :
    Except ParseError Kickoff := do
  match ← parseDate dateRaw with
  | none => .ok ⟨none, none, none, "UNKNOWN", if given dateRaw then ["MALFORMED_DATE"] else []⟩
  | some localDate =>
      match ← parseTime timeRaw with
      | none => do
          let text ← presentText dateRaw
          .ok ⟨none, some localDate, text, "DATE", if given timeRaw then ["MALFORMED_TIME"] else []⟩
      | some localTime => do
          let zone ← sourceTimezone league.timezone localDate
          let offset := zone localDate localTime
          let utc := localDate * microsecondsPerDay + localTime - offset
          if InRange utc then
            .ok ⟨some utc, some localDate, some (isoLocal localDate localTime offset), "INSTANT", []⟩
          else .error .unexpected

/-! ## Rows -/

/-- What a row says of its match. -/
structure RowValues where
  homeTeam : String
  awayTeam : String
  kickoff : Kickoff
  fields : PyDict ParsedField
  deriving DecidableEq

/-- `_value_for`, stripped. -/
def teamName (raw : Option Cell) : Except ParseError String :=
  match raw with
  | none => .ok ""
  | some cell => stripped cell

/-- The team names of a row, which must not be blank. -/
def teamNames (lineNumber : ℕ) (homeRaw awayRaw : Option Cell) :
    Except ParseError (String × String) := do
  let home ← teamName homeRaw
  if home = "" then
    refuse ("Football-Data row " ++ toString lineNumber ++ " has an empty team name.")
  else do
    let away ← teamName awayRaw
    if away = "" then
      refuse ("Football-Data row " ++ toString lineNumber ++ " has an empty team name.")
    else .ok (home, away)

def statistic (spec : StatSpec) (raw : Option Cell) : Except ParseError (String × ParsedField) := do
  let parsed ← parseInteger spec.metric raw
  .ok (spec.metric, { parsed with unit := some spec.unit })

def resultField (item : String × String) (raw : Option Cell) :
    Except ParseError (String × ParsedField) := do
  let parsed ← parseResult item.2 raw
  .ok (item.2, parsed)

def expectedGoals (item : String × String) (raw : Option Cell) :
    Except ParseError (String × ParsedField) := do
  let parsed ← parseDecimal item.2 raw
  .ok (item.2, parsed)

/-- The values of a row from the texts that are found under the header keys. -/
def readValues (league : LeagueConfig) (lineNumber : ℕ) (headers : List String)
    (find : String → Option Cell) : Except ParseError RowValues := do
  let (home, away) ← teamNames lineNumber (find "hometeam") (find "awayteam")
  let moment ← kickoff league (find "date") (find "time")
  let statistics ← statSpecs.mapM fun spec => statistic spec (find spec.source)
  let results ← resultFields.mapM fun item => resultField item (find item.1)
  let expected ← (optionalXgFields.filter fun item => headers.contains item.1).mapM fun item =>
    expectedGoals item (find item.1)
  .ok ⟨home, away, moment, PyDict.ofPairs (statistics ++ results ++ expected)⟩

/-! ## The header -/

/-- The names of the header row as the text has them. -/
structure Header where
  raw : List String
  deriving DecidableEq, Repr

namespace Header

/-- A name without white space and byte order marks. -/
def fieldname (name : String) : String :=
  String.ofList ((strip name).toList.dropWhile (· = '\ufeff'))

def fieldnames (header : Header) : List String := header.raw.map fieldname

/-- `_header_key`. -/
def headerKey (name : String) : String :=
  String.ofList ((casefold (strip name)).toList.filter fun char =>
    ('a' ≤ char && char ≤ 'z') || ('0' ≤ char && char ≤ '9'))

/-- `normalized_headers`. -/
def normalized (header : Header) : List String := header.fieldnames.map headerKey

def policyHeaders (header : Header) : List String :=
  header.normalized.filter (· ∈ policyHeaderKeys)

/-- The column of a header key. -/
def columnOf (header : Header) (key : String) : Option ℕ :=
  header.normalized.findIdx? (· = key)

end Header

/-! ## Rows under the header -/

/-- `value if value is not None else ""`. -/
def filled : Cell → Cell
  | .missing => .text ""
  | cell => cell

/-- The values of a record under the names of the header, by position. -/
def rowDict (header : Header) (record : List String) : PyDict Cell :=
  PyDict.ofPairs (header.fieldnames.zip ((rowValues header.raw record).map filled))

/-- `_value_for_optional`. -/
def valueForOptional (header : Header) (record : List String) (key : String) : Option Cell :=
  (header.columnOf key).map fun column =>
    ((header.fieldnames[column]?.bind (rowDict header record).get?)).getD (.text "")

/-- `_is_allowed_source_field`. -/
def isAllowedSourceField (normalized : String) : Bool :=
  metadataKeys.contains normalized || (statSpecs.map StatSpec.source).contains normalized ||
    (optionalXgFields.map Prod.fst).contains normalized

/-- `raw_fields`. -/
def rawFields (header : Header) (record : List String) : PyDict Cell :=
  PyDict.ofPairs ((((header.fieldnames.zip header.normalized).zip
    (rowValues header.raw record)).filter fun item => isAllowedSourceField item.1.2).map
      fun item => (item.1.1, item.2))

structure ParsedRow where
  sourceRowKey : String
  values : RowValues
  rawFields : PyDict Cell
  sourceRound : Option Cell
  deriving DecidableEq

/-- `_value_for_optional(...) or None`. -/
def orNone (raw : Option Cell) : Option Cell := if given raw then raw else none

/-- One round of the loop over the raw rows. -/
def parseRow (league : LeagueConfig) (header : Header) (lineNumber : ℕ) (record : List String) :
    Except ParseError ParsedRow := do
  let values ← readValues league lineNumber header.normalized (valueForOptional header record)
  .ok ⟨"row-" ++ toString lineNumber, values, rawFields header record,
    orNone (valueForOptional header record "round")⟩

/-! ## Texts -/

structure ParsedDataset where
  league : LeagueConfig
  season : String
  rows : List ParsedRow
  sourceVariant : String
  deriving DecidableEq

/-- Where `str.splitlines` ends a line. -/
def isLineEnd (char : Char) : Bool :=
  (0x0A ≤ char.toNat && char.toNat ≤ 0x0D) || (0x1C ≤ char.toNat && char.toNat ≤ 0x1E) ||
    [0x85, 0x2028, 0x2029].contains char.toNat

/-- `_csv_delimiter`. -/
def csvDelimiter (text : String) : Except ParseError Char :=
  let header := text.toList.takeWhile fun char => !isLineEnd char
  let (delimiter, count) := [';', '\t'].foldl (fun best delimiter =>
    if best.2 < header.count delimiter then (delimiter, header.count delimiter) else best)
    (',', header.count ',')
  if count = 0 then refuse "Football-Data CSV has no supported delimiter."
  else .ok delimiter

/-- The duplicates and the required columns of the header. -/
def checkHeader (header : Header) : Except ParseError Unit :=
  if ¬header.policyHeaders.Nodup then
    refuse "Football-Data CSV contains duplicate header names."
  else if ¬("hometeam" ∈ header.normalized ∧ "awayteam" ∈ header.normalized) then
    refuse "Football-Data CSV lacks required HomeTeam and AwayTeam columns."
  else .ok ()

/-- The rows of the reader: the records after the header that are not empty. -/
def rawRows (records : List (List String)) : List (List String) := records.filter (· ≠ [])

def parseRows (league : LeagueConfig) (header : Header) (rows : List (List String)) :
    Except ParseError (List ParsedRow) :=
  (rows.zipIdx 2).mapM fun row => parseRow league header row.2 row.1

/-- `FootballDataCSVParser.parse` of a decoded text. -/
def parse (text : String) (league : LeagueConfig) (season : String) :
    Except ParseError ParsedDataset := do
  if strip text = "" then refuse "Football-Data CSV is empty."
  else do
    let delimiter ← csvDelimiter text
    match records delimiter text with
    | ([], true) => .error .csv
    | ([], false) => refuse "Football-Data CSV has no header row."
    | (names :: rest, failed) => do
        checkHeader ⟨names⟩
        if failed then refuse "Football-Data CSV is structurally malformed."
        else do
          let rows ← parseRows league ⟨names⟩ (rawRows rest)
          .ok ⟨league, season, rows, "football-data-csv"⟩

/-- `bytes` or `str`. -/
inductive Content where
  | bytes (data : List UInt8)
  | text (content : String)
  deriving DecidableEq

/-- `utf-8-sig`, and `latin-1` for what is no UTF-8. -/
def Content.decode : Content → String
  | .text content => content
  | .bytes data =>
      let body := if [0xEF, 0xBB, 0xBF] <+: data then data.drop 3 else data
      (String.fromUTF8? ⟨body.toArray⟩).getD
        (String.ofList (data.map fun byte => Char.ofNat byte.toNat))

/-- `FootballDataCSVParser.parse`. -/
def parseContent (content : Content) (league : LeagueConfig) (season : String) :
    Except ParseError ParsedDataset :=
  parse content.decode league season

/-! ## What the rows should say -/

/-- The text in the column of a header key; a missing trailing cell is empty. -/
def cellUnder (header : Header) (record : List String) (key : String) : Option Cell :=
  (header.columnOf key).map fun column => filled (cellAt record column)

/-- The keys whose texts make the values of a row; a time counts beside a date only. -/
def usedKeys (header : Header) : List String :=
  ["hometeam", "awayteam", "date"] ++ (if "date" ∈ header.normalized then ["time"] else []) ++
    statSpecs.map StatSpec.source ++ resultFields.map Prod.fst ++ optionalXgFields.map Prod.fst

/-- No raw name is repeated to the left of a column that is used. -/
def Undisturbed (header : Header) : Prop :=
  ∀ key ∈ usedKeys header, ∀ column, header.columnOf key = some column →
    (header.raw.take column).Nodup

/-- The policy columns stand once, and the teams are among them. -/
structure WellFormed (header : Header) : Prop where
  unique : header.policyHeaders.Nodup
  home : "hometeam" ∈ header.normalized
  away : "awayteam" ∈ header.normalized

/-- Both team cells hold more than white space. -/
def TeamsPresent (find : String → Option Cell) : Prop :=
  ∀ key ∈ ["hometeam", "awayteam"], ∃ content, find key = some (.text content) ∧ strip content ≠ ""

/-- The instant of a kickoff whose date and time are read. -/
def HasInstant (league : LeagueConfig) (dateRaw timeRaw : Option Cell) : Prop :=
  ∀ localDate localTime, parseDate dateRaw = .ok (some localDate) →
    parseTime timeRaw = .ok (some localTime) →
      ∃ zone, sourceTimezone league.timezone localDate = .ok zone ∧
        InRange (localDate * microsecondsPerDay + localTime - zone localDate localTime)

/-- Every integer has at most as many digits as `int` reads, and the kickoff has an instant. -/
structure Printable (league : LeagueConfig) (find : String → Option Cell) : Prop where
  integers : ∀ spec ∈ statSpecs, ∀ content digits, find spec.source = some (.text content) →
    integerDigits (strip content) = some digits → digits.length ≤ maxStrDigits
  instant : HasInstant league (find "date") (find "time")

/-- A returned row is read from the cells under the headers, and a row with team names is
returned. -/
structure Faithful (league : LeagueConfig) (header : Header) (lineNumber : ℕ)
    (record : List String) : Prop where
  values : ∀ row, parseRow league header lineNumber record = .ok row →
    readValues league lineNumber header.normalized (cellUnder header record) = .ok row.values
  cells : ∀ row, parseRow league header lineNumber record = .ok row →
    ∀ key ∈ usedKeys header, valueForOptional header record key = cellUnder header record key
  returned : TeamsPresent (cellUnder header record) →
    ∃ row, parseRow league header lineNumber record = .ok row

end

/-! ## Columns -/

theorem Once.of_map {f : String → String} {names : List String} {name : String} {column : ℕ}
    (honce : Once (names.map f) (f name) column) (hname : names[column]? = some name) :
    Once names name column where
  at_column := hname
  before hmem := honce.before (by rw [← List.map_take]; exact List.mem_map_of_mem hmem)
  after hmem := honce.after (by rw [← List.map_drop]; exact List.mem_map_of_mem hmem)

theorem once_of_filter {names : List String} {keep : String → Bool} {name : String} {column : ℕ}
    (hnodup : (names.filter keep).Nodup) (hname : names[column]? = some name)
    (hkeep : keep name = true) : Once names name column := by
  obtain ⟨hlt, hget⟩ := List.getElem?_eq_some_iff.mp hname
  have hsplit : names = names.take column ++ name :: names.drop (column + 1) := by
    rw [← hget, List.getElem_cons_drop, List.take_append_drop]
  rw [hsplit, List.filter_append, List.filter_cons_of_pos hkeep, List.nodup_append] at hnodup
  refine ⟨hname, fun hmem => ?_, fun hmem => ?_⟩
  · exact hnodup.2.2 name (List.mem_filter.mpr ⟨hmem, hkeep⟩) name List.mem_cons_self rfl
  · exact (List.nodup_cons.mp hnodup.2.1).1 (List.mem_filter.mpr ⟨hmem, hkeep⟩)

/-- A name that stands once finds the value of its column. -/
theorem get?_ofPairs_zip {names : List String} {values : List Cell} {name : String} {column : ℕ}
    (honce : Once names name column) :
    (PyDict.ofPairs (names.zip values)).get? name = values[column]? := by
  cases hvalue : values[column]? with
  | some value =>
      have hpair : (names.zip values)[column]? = some (name, value) := by
        rw [List.getElem?_zip_eq_some]
        exact ⟨honce.at_column, hvalue⟩
      have hentry := ofPairs_split hpair ?_ ?_
      · exact lookup_of_mem (PyDict.nodup _) (List.mem_of_getElem? hentry)
      · intro hmem
        obtain ⟨entry, hentry, rfl⟩ := List.mem_map.mp hmem
        rw [List.zip, List.take_zipWith] at hentry
        exact honce.before (List.of_mem_zip hentry).1
      · intro hmem
        obtain ⟨entry, hentry, rfl⟩ := List.mem_map.mp hmem
        rw [List.zip, List.drop_zipWith] at hentry
        exact honce.after (List.of_mem_zip hentry).1
  | none =>
      refine List.lookup_eq_none_iff.mpr fun entry hentry => ?_
      rw [bne_iff_ne]
      rintro rfl
      obtain ⟨index, hindex⟩ := List.mem_iff_getElem?.mp (PyDict.mem_of_mem_ofPairs hentry)
      obtain ⟨hname, hindexed⟩ := List.getElem?_zip_eq_some.mp hindex
      have hlength := List.getElem?_eq_none_iff.mp hvalue
      have hlt := (List.getElem?_eq_some_iff.mp hindexed).1
      refine honce.before (List.mem_iff_getElem?.mpr ⟨index, ?_⟩)
      rw [List.getElem?_take_of_lt (by omega)]
      exact hname

/-! ## Cells under their headers -/

section
variable [CsvServices] {header : Header}

theorem columnOf_eq_some {key : String} {column : ℕ} (hcolumn : header.columnOf key = some column) :
    header.normalized[column]? = some key := by
  obtain ⟨hlt, hkey, -⟩ := List.findIdx?_eq_some_iff_getElem.mp hcolumn
  rw [List.getElem?_eq_getElem hlt, of_decide_eq_true hkey]

theorem columnOf_isSome {key : String} (hkey : key ∈ header.normalized) :
    ∃ column, header.columnOf key = some column := by
  refine Option.isSome_iff_exists.mp ?_
  rw [Header.columnOf, List.findIdx?_isSome]
  exact List.any_eq_true.mpr ⟨key, hkey, decide_eq_true rfl⟩

/-- A policy column stands once under its name, stripped and as the text has it. -/
theorem once_of_columnOf (hheader : WellFormed header) {key : String} {column : ℕ}
    (hkey : key ∈ policyHeaderKeys) (hcolumn : header.columnOf key = some column) :
    (∃ name, Once header.fieldnames name column) ∧ ∃ name, Once header.raw name column := by
  have honce : Once header.normalized key column :=
    once_of_filter hheader.unique (columnOf_eq_some hcolumn) (decide_eq_true hkey)
  have hlt : column < header.raw.length := by
    have hlength := honce.lt
    rwa [Header.normalized, Header.fieldnames, List.length_map, List.length_map] at hlength
  have hraw : header.raw[column]? = some header.raw[column] := List.getElem?_eq_getElem hlt
  have hfield : header.fieldnames[column]? = some (Header.fieldname header.raw[column]) := by
    rw [Header.fieldnames, List.getElem?_map, hraw]
    rfl
  have hkeyed : Header.headerKey (Header.fieldname header.raw[column]) = key := by
    have hat := honce.at_column
    rw [Header.normalized, List.getElem?_map, hfield] at hat
    exact Option.some.inj hat
  have hnamed : Once header.fieldnames (Header.fieldname header.raw[column]) column :=
    Once.of_map (hkeyed ▸ honce) hfield
  exact ⟨⟨_, hnamed⟩, _, Once.of_map hnamed hraw⟩

/-- What is found under a policy column is the value at its position. -/
theorem valueForOptional_eq (hheader : WellFormed header) {key : String} {column : ℕ}
    (hkey : key ∈ policyHeaderKeys) (hcolumn : header.columnOf key = some column)
    (record : List String) :
    valueForOptional header record key =
      some (((rowValues header.raw record)[column]?.map filled).getD (.text "")) := by
  obtain ⟨⟨name, hname⟩, -⟩ := once_of_columnOf hheader hkey hcolumn
  rw [valueForOptional, hcolumn, Option.map_some, hname.at_column, Option.bind_some, rowDict,
    get?_ofPairs_zip hname, List.getElem?_map]

theorem usedKeys_policy {key : String} (hkey : key ∈ usedKeys header) :
    key ∈ policyHeaderKeys := by
  unfold usedKeys at hkey
  split at hkey
  all_goals
    revert key
    decide

/-- Undisturbed columns are read from their own cells. -/
theorem valueForOptional_eq_cellUnder (hheader : WellFormed header)
    (hundisturbed : Undisturbed header) {key : String} (hkey : key ∈ usedKeys header)
    (record : List String) :
    valueForOptional header record key = cellUnder header record key := by
  cases hcolumn : header.columnOf key with
  | none => rw [valueForOptional, cellUnder, hcolumn]; rfl
  | some column =>
      have hpolicy := usedKeys_policy hkey
      obtain ⟨-, name, hname⟩ := once_of_columnOf hheader hpolicy hcolumn
      rw [valueForOptional_eq hheader hpolicy hcolumn, cellUnder, hcolumn,
        rowValues_of_nodup hname (hundisturbed key hkey column hcolumn) record]
      rfl

omit [CsvServices] in
theorem filled_eq_text {cell : Cell} {content : String} (hcontent : content ≠ "")
    (hfilled : filled cell = .text content) : cell = .text content := by
  cases cell with
  | missing => exact absurd (Cell.text.inj hfilled).symm hcontent
  | text other => exact hfilled
  | rest others => cases hfilled

/-- A disturbed column is read from another cell of its marked record. -/
theorem valueForOptional_ne_cellUnder (hheader : WellFormed header) {key : String} {column : ℕ}
    (hkey : key ∈ policyHeaderKeys) (hcolumn : header.columnOf key = some column)
    (hrepeat : ¬(header.raw.take column).Nodup) {name : String}
    (hname : Once header.raw name column) :
    valueForOptional header (marked header.raw name) key ≠
      cellUnder header (marked header.raw name) key := by
  have hcell : cellUnder header (marked header.raw name) key = some (.text "7") := by
    rw [cellUnder, hcolumn, Option.map_some, cellAt, marked, List.getElem?_map, hname.at_column,
      Option.map_some, if_pos rfl]
    rfl
  rw [hcell, valueForOptional_eq hheader hkey hcolumn]
  intro hvalue
  have hread := Option.some.inj hvalue
  cases hposition : (rowValues header.raw (marked header.raw name))[column]? with
  | none =>
      rw [hposition] at hread
      exact absurd (Cell.text.inj hread) (by decide)
  | some cell =>
      rw [hposition] at hread
      have htext := filled_eq_text (by decide) hread
      exact rowValues_of_repeat hname hrepeat (hposition.trans (congrArg some htext))

/-! ## Rows that are returned -/

omit [CsvServices] in
theorem mapM_congr_mem {ε α β : Type} {first second : α → Except ε β} {items : List α}
    (hcalls : ∀ item ∈ items, first item = second item) : items.mapM first = items.mapM second := by
  induction items with
  | nil => rfl
  | cons item rest ih =>
      obtain ⟨hitem, hrest⟩ := List.forall_mem_cons.mp hcalls
      rw [List.mapM_cons, List.mapM_cons, hitem, ih hrest]

omit [CsvServices] in
/-- A list of calls returns exactly when each of them does. -/
theorem exists_mapM_iff {ε α β : Type} {call : α → Except ε β} {items : List α} :
    (∃ results, items.mapM call = .ok results) ↔ ∀ item ∈ items, ∃ result, call item = .ok result := by
  constructor
  · rintro ⟨results, hresults⟩ item hitem
    obtain ⟨result, -, hresult⟩ := exists_of_mem_left (forall₂_of_mapM hresults) hitem
    exact ⟨result, hresult⟩
  · intro hcalls
    induction items with
    | nil => exact ⟨[], rfl⟩
    | cons item rest ih =>
        obtain ⟨⟨result, hresult⟩, hrest⟩ := List.forall_mem_cons.mp hcalls
        obtain ⟨results, hresults⟩ := ih hrest
        exact ⟨result :: results, by rw [List.mapM_cons, hresult, hresults]; rfl⟩

/-- The values of a row depend on the texts of the used keys only. -/
theorem readValues_congr {find other : String → Option Cell}
    (hkeys : ∀ key ∈ usedKeys header, find key = other key)
    (hdate : "date" ∉ header.normalized → find "date" = none) (league : LeagueConfig)
    (lineNumber : ℕ) :
    readValues league lineNumber header.normalized find =
      readValues league lineNumber header.normalized other := by
  have hmem : ∀ key ∈ ["hometeam", "awayteam", "date"] ++ statSpecs.map StatSpec.source ++
      resultFields.map Prod.fst ++ optionalXgFields.map Prod.fst, key ∈ usedKeys header := by
    intro key hkey
    unfold usedKeys
    simp only [List.mem_append] at hkey ⊢
    tauto
  have hkickoff : kickoff league (find "date") (find "time") =
      kickoff league (other "date") (other "time") := by
    have hsame := hkeys "date" (hmem _ (by decide))
    by_cases hpresent : "date" ∈ header.normalized
    · have htime : "time" ∈ usedKeys header := by
        unfold usedKeys
        rw [if_pos hpresent]
        decide
      rw [hsame, hkeys "time" htime]
    · have hnone := hdate hpresent
      rw [← hsame, hnone]
      rfl
  have hstatistics : statSpecs.mapM (fun spec => statistic spec (find spec.source)) =
      statSpecs.mapM fun spec => statistic spec (other spec.source) := by
    refine mapM_congr_mem fun spec hspec => congrArg _ (hkeys _ (hmem _ ?_))
    simp only [List.mem_append]
    exact .inl (.inl (.inr (List.mem_map_of_mem hspec)))
  have hresults : resultFields.mapM (fun item => resultField item (find item.1)) =
      resultFields.mapM fun item => resultField item (other item.1) := by
    refine mapM_congr_mem fun item hitem => congrArg _ (hkeys _ (hmem _ ?_))
    simp only [List.mem_append]
    exact .inl (.inr (List.mem_map_of_mem hitem))
  have hexpected : (optionalXgFields.filter fun item => header.normalized.contains item.1).mapM
        (fun item => expectedGoals item (find item.1)) =
      (optionalXgFields.filter fun item => header.normalized.contains item.1).mapM
        fun item => expectedGoals item (other item.1) := by
    refine mapM_congr_mem fun item hitem => congrArg _ (hkeys _ (hmem _ ?_))
    simp only [List.mem_append]
    exact .inr (List.mem_map_of_mem (List.mem_filter.mp hitem).1)
  unfold readValues
  rw [hkeys "hometeam" (hmem _ (by decide)), hkeys "awayteam" (hmem _ (by decide)), hkickoff,
    hstatistics, hresults, hexpected]

/-- A text, or nothing. -/
def Textual (raw : Option Cell) : Prop := ∀ cell, raw = some cell → ∃ content, cell = .text content

omit [CsvServices] in
theorem Textual.cases {raw : Option Cell} (htext : Textual raw) :
    raw = none ∨ ∃ content, raw = some (.text content) := by
  cases hraw : raw with
  | none => exact .inl rfl
  | some cell =>
      obtain ⟨content, rfl⟩ := htext cell hraw
      exact .inr ⟨content, rfl⟩

theorem textual_cellUnder (record : List String) (key : String) :
    Textual (cellUnder header record key) := by
  intro cell hcell
  obtain ⟨column, -, rfl⟩ := Option.map_eq_some_iff.mp hcell
  rw [cellAt]
  cases record[column]? with
  | none => exact ⟨"", rfl⟩
  | some content => exact ⟨content, rfl⟩

omit [CsvServices] in
theorem presentText_ok {raw : Option Cell} (htext : Textual raw) :
    ∃ value, presentText raw = .ok value := by
  rcases htext.cases with rfl | ⟨content, rfl⟩
  · exact ⟨none, rfl⟩
  · exact ⟨_, rfl⟩

theorem parseInteger_iff {raw : Option Cell} (htext : Textual raw) (name : String) :
    (∃ field, parseInteger name raw = .ok field) ↔
      ∀ content digits, raw = some (.text content) → integerDigits (strip content) = some digits →
        digits.length ≤ maxStrDigits := by
  rcases htext.cases with rfl | ⟨content, rfl⟩
  · exact ⟨fun _ _ _ hraw => (by cases hraw), fun _ => ⟨_, rfl⟩⟩
  · have hpresent : presentText (some (.text content)) =
        .ok (if strip content = "" then none else some (strip content)) := rfl
    rw [parseInteger, hpresent, ok_bind]
    by_cases hblank : strip content = ""
    · rw [if_pos hblank]
      refine ⟨fun _ other digits hraw hdigits => ?_, fun _ => ⟨_, rfl⟩⟩
      obtain rfl := Cell.text.inj (Option.some.inj hraw)
      rw [integerDigits, if_pos hblank] at hdigits
      cases hdigits
    · rw [if_neg hblank]
      dsimp only
      cases hdigits : integerDigits (strip content) with
      | none =>
          refine ⟨fun _ other digits hraw hother => ?_, fun _ => ⟨_, rfl⟩⟩
          obtain rfl := Cell.text.inj (Option.some.inj hraw)
          rw [hdigits] at hother
          cases hother
      | some digits =>
          dsimp only
          rw [readInteger]
          constructor
          · rintro ⟨field, hfield⟩ other others hraw hother
            obtain rfl := Cell.text.inj (Option.some.inj hraw)
            rw [hdigits] at hother
            obtain rfl := Option.some.inj hother
            by_contra hlong
            rw [if_neg hlong] at hfield
            cases hfield
          · intro hshort
            rw [if_pos (hshort content digits rfl hdigits)]
            exact ⟨_, rfl⟩

theorem parseResult_ok {raw : Option Cell} (htext : Textual raw) (name : String) :
    ∃ field, parseResult name raw = .ok field := by
  obtain ⟨value, hvalue⟩ := presentText_ok htext
  rw [parseResult, hvalue, ok_bind]
  cases value with
  | none => exact ⟨_, rfl⟩
  | some value =>
      dsimp only
      split
      · exact ⟨_, rfl⟩
      · exact ⟨_, rfl⟩

theorem parseDecimal_ok {raw : Option Cell} (htext : Textual raw) (name : String) :
    ∃ field, parseDecimal name raw = .ok field := by
  obtain ⟨value, hvalue⟩ := presentText_ok htext
  rw [parseDecimal, hvalue, ok_bind]
  cases value with
  | none => exact ⟨_, rfl⟩
  | some value =>
      dsimp only
      split
      · exact ⟨_, rfl⟩
      · split
        · exact ⟨_, rfl⟩
        · exact ⟨_, rfl⟩

theorem kickoff_iff {dateRaw timeRaw : Option Cell} (hdate : Textual dateRaw)
    (htime : Textual timeRaw) (league : LeagueConfig) :
    (∃ moment, kickoff league dateRaw timeRaw = .ok moment) ↔
      HasInstant league dateRaw timeRaw := by
  obtain ⟨dateText, hdateText⟩ := presentText_ok hdate
  obtain ⟨timeText, htimeText⟩ := presentText_ok htime
  obtain ⟨date, hdateRead⟩ : ∃ date, parseDate dateRaw = .ok date := by
    rw [parseDate, hdateText, ok_bind]
    cases dateText <;> exact ⟨_, rfl⟩
  obtain ⟨time, htimeRead⟩ : ∃ time, parseTime timeRaw = .ok time := by
    rw [parseTime, htimeText, ok_bind]
    cases timeText <;> exact ⟨_, rfl⟩
  unfold HasInstant
  rw [kickoff, hdateRead, htimeRead, ok_bind]
  cases date with
  | none => exact ⟨fun _ _ _ hother => (by cases hother), fun _ => ⟨_, rfl⟩⟩
  | some localDate =>
      dsimp only
      rw [ok_bind]
      cases time with
      | none =>
          refine ⟨fun _ _ _ _ hother => (by cases hother), fun _ => ?_⟩
          dsimp only
          rw [hdateText]
          exact ⟨_, rfl⟩
      | some localTime =>
          dsimp only
          constructor
          · rintro ⟨moment, hmoment⟩ other another hother hanother
            obtain rfl := Option.some.inj (Except.ok.inj hother)
            obtain rfl := Option.some.inj (Except.ok.inj hanother)
            obtain ⟨zone, hzone, hinstant⟩ := bind_eq_ok.mp hmoment
            refine ⟨zone, hzone, ?_⟩
            by_contra hout
            rw [if_neg hout] at hinstant
            cases hinstant
          · intro hinstant
            obtain ⟨zone, hzone, hrange⟩ := hinstant localDate localTime rfl rfl
            rw [hzone, ok_bind, if_pos hrange]
            exact ⟨_, rfl⟩

omit [CsvServices] in
theorem teamNames_ok {find : String → Option Cell} (hteams : TeamsPresent find) (lineNumber : ℕ) :
    ∃ names, teamNames lineNumber (find "hometeam") (find "awayteam") = .ok names := by
  obtain ⟨home, hhome, hhomeText⟩ := hteams "hometeam" (by decide)
  obtain ⟨away, haway, hawayText⟩ := hteams "awayteam" (by decide)
  have hhomeName : teamName (some (.text home)) = .ok (strip home) := rfl
  have hawayName : teamName (some (.text away)) = .ok (strip away) := rfl
  rw [teamNames, hhome, haway, hhomeName, ok_bind, if_neg hhomeText, hawayName, ok_bind,
    if_neg hawayText]
  exact ⟨_, rfl⟩

/-- A row of texts with team names has values exactly when its numbers and its instant do. -/
theorem readValues_iff {find : String → Option Cell} (htext : ∀ key, Textual (find key))
    (hteams : TeamsPresent find) (league : LeagueConfig) (lineNumber : ℕ)
    (headers : List String) :
    (∃ values, readValues league lineNumber headers find = .ok values) ↔
      Printable league find := by
  have hstatistic : ∀ spec : StatSpec, (∃ result, statistic spec (find spec.source) = .ok result) ↔
      ∀ content digits, find spec.source = some (.text content) →
        integerDigits (strip content) = some digits → digits.length ≤ maxStrDigits := by
    intro spec
    rw [← parseInteger_iff (htext spec.source) spec.metric]
    constructor
    · rintro ⟨result, hresult⟩
      obtain ⟨field, hfield, -⟩ := bind_eq_ok.mp hresult
      exact ⟨field, hfield⟩
    · rintro ⟨field, hfield⟩
      exact ⟨_, by rw [statistic, hfield]; rfl⟩
  constructor
  · rintro ⟨values, hvalues⟩
    obtain ⟨names, -, hvalues⟩ := bind_eq_ok.mp hvalues
    obtain ⟨moment, hmoment, hvalues⟩ := bind_eq_ok.mp hvalues
    obtain ⟨statistics, hstatistics, -⟩ := bind_eq_ok.mp hvalues
    exact ⟨fun spec hspec => (hstatistic spec).mp (exists_mapM_iff.mp ⟨_, hstatistics⟩ spec hspec),
      (kickoff_iff (htext "date") (htext "time") league).mp ⟨moment, hmoment⟩⟩
  · rintro ⟨hintegers, hinstant⟩
    obtain ⟨⟨home, away⟩, hnames⟩ := teamNames_ok hteams lineNumber
    obtain ⟨moment, hmoment⟩ :=
      (kickoff_iff (htext "date") (htext "time") league).mpr hinstant
    obtain ⟨statistics, hstatistics⟩ := exists_mapM_iff.mpr fun spec hspec =>
      (hstatistic spec).mpr (hintegers spec hspec)
    obtain ⟨results, hresults⟩ : ∃ results, resultFields.mapM
        (fun item => resultField item (find item.1)) = .ok results := by
      refine exists_mapM_iff.mpr fun item _ => ?_
      obtain ⟨field, hfield⟩ := parseResult_ok (htext item.1) item.2
      exact ⟨_, by rw [resultField, hfield]; rfl⟩
    obtain ⟨expected, hexpected⟩ : ∃ expected,
        (optionalXgFields.filter fun item => headers.contains item.1).mapM
          (fun item => expectedGoals item (find item.1)) = .ok expected := by
      refine exists_mapM_iff.mpr fun item _ => ?_
      obtain ⟨field, hfield⟩ := parseDecimal_ok (htext item.1) item.2
      exact ⟨_, by rw [expectedGoals, hfield]; rfl⟩
    refine ⟨⟨home, away, moment, PyDict.ofPairs (statistics ++ results ++ expected)⟩, ?_⟩
    rw [readValues, hnames, ok_bind]
    dsimp only
    rw [hmoment, ok_bind, hstatistics, ok_bind, hresults, ok_bind, hexpected, ok_bind]

theorem parseRow_eq_ok {league : LeagueConfig} {lineNumber : ℕ} {record : List String}
    {row : ParsedRow} (hrow : parseRow league header lineNumber record = .ok row) :
    readValues league lineNumber header.normalized (valueForOptional header record) =
      .ok row.values := by
  obtain ⟨values, hvalues, hdone⟩ := bind_eq_ok.mp hrow
  obtain rfl := Except.ok.inj hdone
  exact hvalues

/-- Under an undisturbed header the values of a row are those of its cells. -/
theorem readValues_eq_cellUnder (hheader : WellFormed header) (hundisturbed : Undisturbed header)
    (league : LeagueConfig) (lineNumber : ℕ) (record : List String) :
    readValues league lineNumber header.normalized (valueForOptional header record) =
      readValues league lineNumber header.normalized (cellUnder header record) := by
  refine readValues_congr (fun key hkey =>
    valueForOptional_eq_cellUnder hheader hundisturbed hkey record) (fun hdate => ?_) league
    lineNumber
  cases hcolumn : header.columnOf "date" with
  | none => rw [valueForOptional, hcolumn]; rfl
  | some column =>
      have hname := columnOf_eq_some hcolumn
      exact absurd (List.mem_of_getElem? hname) hdate

/-- A row with team names is returned exactly when it is printable. -/
theorem parseRow_iff (hheader : WellFormed header) (hundisturbed : Undisturbed header)
    {league : LeagueConfig} {record : List String}
    (hteams : TeamsPresent (cellUnder header record)) (lineNumber : ℕ) :
    (∃ row, parseRow league header lineNumber record = .ok row) ↔
      Printable league (cellUnder header record) := by
  rw [← readValues_iff (textual_cellUnder record) hteams league lineNumber header.normalized,
    ← readValues_eq_cellUnder hheader hundisturbed]
  constructor
  · rintro ⟨row, hrow⟩
    exact ⟨row.values, parseRow_eq_ok hrow⟩
  · rintro ⟨values, hvalues⟩
    exact ⟨_, by rw [parseRow, hvalues]; rfl⟩

/-! ## The marked record -/

theorem cellUnder_marked (header : Header) (name key : String) :
    cellUnder header (marked header.raw name) key = none ∨
      ∃ content ∈ ["7", "8"], cellUnder header (marked header.raw name) key =
        some (.text content) := by
  unfold cellUnder
  cases hcolumn : header.columnOf key with
  | none => exact .inl rfl
  | some column =>
      have hname := columnOf_eq_some hcolumn
      have hlt := (List.getElem?_eq_some_iff.mp hname).1
      rw [Header.normalized, Header.fieldnames, List.length_map, List.length_map] at hlt
      right
      rw [Option.map_some, cellAt, marked, List.getElem?_map, List.getElem?_eq_getElem hlt,
        Option.map_some]
      split
      · exact ⟨"7", by simp, rfl⟩
      · exact ⟨"8", by simp, rfl⟩

theorem teamsPresent_marked (hheader : WellFormed header) (name : String) :
    TeamsPresent (cellUnder header (marked header.raw name)) := by
  intro key hkey
  have hpresent : key ∈ header.normalized := by
    rcases List.mem_cons.mp hkey with rfl | hkey
    · exact hheader.home
    · rw [List.mem_singleton.mp hkey]
      exact hheader.away
  obtain ⟨column, hcolumn⟩ := columnOf_isSome hpresent
  rcases cellUnder_marked header name key with hnone | ⟨content, hcontent, hcell⟩
  · rw [cellUnder, hcolumn] at hnone
    cases hnone
  · have hvisible : ∀ content ∈ ["7", "8"], strip content ≠ "" := by decide
    exact ⟨content, hcell, hvisible content hcontent⟩

theorem integerDigits_length {value : String} {digits : List ℕ}
    (hdigits : integerDigits value = some digits) : digits.length = value.length := by
  have hmapM : ∀ (chars : List Char) (found : List ℕ), chars.mapM digit? = some found →
      found.length = chars.length := by
    intro chars
    induction chars with
    | nil =>
        intro found hfound
        obtain rfl := Option.some.inj hfound
        rfl
    | cons char rest ih =>
        intro found hfound
        simp only [List.mapM_cons, Option.bind_eq_bind, Option.bind_eq_some_iff, Option.pure_def,
          Option.some.injEq] at hfound
        obtain ⟨digit, -, more, hmore, rfl⟩ := hfound
        rw [List.length_cons, List.length_cons, ih more hmore]
  unfold integerDigits at hdigits
  split at hdigits
  next => cases hdigits
  next => exact (hmapM _ _ hdigits).trans String.length_toList

/-- A text of one character is no date. -/
theorem parseDate_short {content : String} (hshort : (strip content).length = 1) :
    parseDate (some (.text content)) = .ok none := by
  have hnone : ∀ pattern, strptimeDate pattern (strip content) = none := by
    intro pattern
    rw [← Option.not_isSome_iff_eq_none]
    intro hsome
    have hlong := CsvServices.date_length pattern (strip content) hsome
    omega
  have hpresent : presentText (some (.text content)) =
      .ok (if strip content = "" then none else some (strip content)) := rfl
  rw [parseDate, hpresent, ok_bind]
  split
  next => rfl
  next value hvalue =>
    split at hvalue
    next => cases hvalue
    next =>
      obtain rfl := Option.some.inj hvalue
      simp only [List.findSome?_cons, hnone, List.findSome?_nil]

theorem printable_marked (league : LeagueConfig) (name : String) :
    Printable league (cellUnder header (marked header.raw name)) := by
  have hshort : ∀ content ∈ ["7", "8"], (strip content).length = 1 := by decide
  refine ⟨fun spec _ content digits hcell hdigits => ?_, fun localDate localTime hdate _ => ?_⟩
  · rcases cellUnder_marked header name spec.source with hnone | ⟨other, hother, hmark⟩
    · rw [hnone] at hcell
      cases hcell
    · rw [hmark] at hcell
      obtain rfl := Cell.text.inj (Option.some.inj hcell)
      rw [integerDigits_length hdigits, hshort other hother]
      decide
  · rcases cellUnder_marked header name "date" with hnone | ⟨other, hother, hmark⟩
    · rw [hnone] at hdate
      cases hdate
    · rw [hmark, parseDate_short (hshort other hother)] at hdate
      cases hdate

/-! ## Every row of a text -/

/-- The header under which every printable row is read from its own cells. -/
theorem faithful_iff (hheader : WellFormed header) :
    (∀ league lineNumber record, Printable league (cellUnder header record) →
      Faithful league header lineNumber record) ↔ Undisturbed header := by
  constructor
  · intro hfaithful key hkey column hcolumn
    by_contra hrepeat
    have hpolicy := usedKeys_policy hkey
    obtain ⟨-, name, hname⟩ := once_of_columnOf hheader hpolicy hcolumn
    have hrow := hfaithful ⟨"", "", "", "", none, ""⟩ 2 (marked header.raw name)
      (printable_marked _ name)
    obtain ⟨row, hreturned⟩ := hrow.returned (teamsPresent_marked hheader name)
    exact valueForOptional_ne_cellUnder hheader hpolicy hcolumn hrepeat hname
      (hrow.cells row hreturned key hkey)
  · intro hundisturbed league lineNumber record hprintable
    refine ⟨fun row hrow => ?_, fun row _ key hkey => ?_, fun hteams => ?_⟩
    · rw [← readValues_eq_cellUnder hheader hundisturbed]
      exact parseRow_eq_ok hrow
    · exact valueForOptional_eq_cellUnder hheader hundisturbed hkey record
    · exact (parseRow_iff hheader hundisturbed hteams lineNumber).mpr hprintable

/-- The header row and the further records of a text. -/
structure Reads (text : String) (header : Header) (rest : List (List String)) : Prop where
  visible : strip text ≠ ""
  records : ∃ delimiter, csvDelimiter text = .ok delimiter ∧
    records delimiter text = (header.raw :: rest, false)
  wellFormed : WellFormed header

theorem Reads.unique {text : String} {other : Header} {rest others : List (List String)}
    (hreads : Reads text header rest) (hothers : Reads text other others) :
    header = other ∧ rest = others := by
  obtain ⟨delimiter, hdelimiter, hrecords⟩ := hreads.records
  obtain ⟨another, hanother, hsame⟩ := hothers.records
  rw [hdelimiter] at hanother
  obtain rfl := Except.ok.inj hanother
  rw [hrecords] at hsame
  have hcons := (Prod.mk.inj hsame).1
  cases header
  cases other
  exact ⟨congrArg Header.mk (List.cons.inj hcons).1, (List.cons.inj hcons).2⟩

theorem checkHeader_eq_ok {header : Header} :
    checkHeader header = .ok () ↔ WellFormed header := by
  unfold checkHeader
  constructor
  · intro hcheck
    split at hcheck
    next => cases hcheck
    next hunique =>
      split at hcheck
      next => cases hcheck
      next hteams =>
        rw [not_not] at hunique hteams
        exact ⟨hunique, hteams.1, hteams.2⟩
  · rintro ⟨hunique, hhome, haway⟩
    rw [if_neg (not_not.mpr hunique), if_neg (not_not.mpr ⟨hhome, haway⟩)]

theorem parse_eq_ok {text : String} {league : LeagueConfig} {season : String}
    {dataset : ParsedDataset} (hparse : parse text league season = .ok dataset) :
    ∃ header rest, Reads text header rest ∧
      parseRows league header (rawRows rest) = .ok dataset.rows := by
  unfold parse at hparse
  split at hparse
  next => cases hparse
  next hvisible =>
    obtain ⟨delimiter, hdelimiter, hparse⟩ := bind_eq_ok.mp hparse
    split at hparse
    next => cases hparse
    next => cases hparse
    next names rest failed hrecords =>
      obtain ⟨_, hcheck, hparse⟩ := bind_eq_ok.mp hparse
      split at hparse
      next => cases hparse
      next hfailed =>
        obtain ⟨rows, hrows, hdone⟩ := bind_eq_ok.mp hparse
        obtain rfl := Except.ok.inj hdone
        rw [Bool.not_eq_true] at hfailed
        subst hfailed
        exact ⟨⟨names⟩, rest, ⟨hvisible, ⟨delimiter, hdelimiter, hrecords⟩,
          checkHeader_eq_ok.mp hcheck⟩, hrows⟩

omit [CsvServices] in
/-- Every record has a line number. -/
theorem exists_mem_zipIdx {rows : List (List String)} {record : List String}
    (hrecord : record ∈ rows) : ∃ lineNumber, (record, lineNumber) ∈ rows.zipIdx 2 := by
  obtain ⟨index, hindex⟩ := List.mem_iff_getElem?.mp hrecord
  refine ⟨2 + index, List.mk_mem_zipIdx_iff_le_and_getElem?_sub.mpr ⟨by omega, ?_⟩⟩
  rw [Nat.add_sub_cancel_left]
  exact hindex

theorem parseRows_iff {league : LeagueConfig} {rows : List (List String)} :
    (∃ parsed, parseRows league header rows = .ok parsed) ↔
      ∀ item ∈ rows.zipIdx 2, ∃ row, parseRow league header item.2 item.1 = .ok row := by
  unfold parseRows
  exact exists_mapM_iff

theorem parse_of_reads {text : String} {rest : List (List String)}
    (hreads : Reads text header rest) {league : LeagueConfig} {rows : List ParsedRow}
    (hrows : parseRows league header (rawRows rest) = .ok rows) (season : String) :
    parse text league season = .ok ⟨league, season, rows, "football-data-csv"⟩ := by
  obtain ⟨hvisible, ⟨delimiter, hdelimiter, hrecords⟩, hheader⟩ := hreads
  rw [parse, if_neg hvisible, hdelimiter, ok_bind, hrecords]
  dsimp only
  rw [checkHeader_eq_ok.mpr hheader, ok_bind, if_neg Bool.false_ne_true, hrows, ok_bind]

/-- Cells stay under their headers exactly when no raw name is repeated to the left of a used
column; a text is then returned, row by row, exactly when its rows are printable. -/
theorem cells_under_headers :
    (∀ header, WellFormed header →
      ((∀ league lineNumber record, Printable league (cellUnder header record) →
        Faithful league header lineNumber record) ↔ Undisturbed header)) ∧
    (∀ content league season dataset, parseContent content league season = .ok dataset →
      ∃ header rest, Reads content.decode header rest ∧ (Undisturbed header →
        List.Forall₂ (fun item row =>
            row.sourceRowKey = "row-" ++ toString item.2 ∧
            readValues league item.2 header.normalized (cellUnder header item.1) = .ok row.values)
          ((rawRows rest).zipIdx 2) dataset.rows)) ∧
    ∀ content header rest league season, Reads content.decode header rest → Undisturbed header →
      (∀ record ∈ rawRows rest, TeamsPresent (cellUnder header record)) →
        ((∃ dataset, parseContent content league season = .ok dataset) ↔
          ∀ record ∈ rawRows rest, Printable league (cellUnder header record)) := by
  refine ⟨fun _ hheader => faithful_iff hheader, ?_, ?_⟩
  · intro content league season dataset hparse
    obtain ⟨header, rest, hreads, hrows⟩ := parse_eq_ok hparse
    refine ⟨header, rest, hreads, fun hundisturbed => ?_⟩
    refine (forall₂_of_mapM hrows).imp fun item row hrow => ⟨?_, ?_⟩
    · obtain ⟨values, -, hdone⟩ := bind_eq_ok.mp hrow
      obtain rfl := Except.ok.inj hdone
      rfl
    · rw [← readValues_eq_cellUnder hreads.wellFormed hundisturbed]
      exact parseRow_eq_ok hrow
  · intro content header rest league season hreads hundisturbed hteams
    have hrecord : ∀ record ∈ rawRows rest, ∀ lineNumber,
        (∃ row, parseRow league header lineNumber record = .ok row) ↔
          Printable league (cellUnder header record) := fun record hmem lineNumber =>
      parseRow_iff hreads.wellFormed hundisturbed (hteams record hmem) lineNumber
    constructor
    · rintro ⟨dataset, hparse⟩ record hmem
      obtain ⟨other, others, hothers, hrows⟩ := parse_eq_ok hparse
      obtain ⟨rfl, rfl⟩ := hreads.unique hothers
      obtain ⟨lineNumber, hitem⟩ := exists_mem_zipIdx hmem
      have hall := parseRows_iff.mp ⟨dataset.rows, hrows⟩
      have hrow : ∃ row, parseRow league header lineNumber record = .ok row :=
        hall (record, lineNumber) hitem
      exact (hrecord record hmem lineNumber).mp hrow
    · intro hprintable
      obtain ⟨rows, hrows⟩ : ∃ rows, parseRows league header (rawRows rest) = .ok rows := by
        refine parseRows_iff.mpr fun item hitem => ?_
        have hmem := List.fst_mem_of_mem_zipIdx hitem
        exact (hrecord item.1 hmem item.2).mpr (hprintable item.1 hmem)
      exact ⟨_, parse_of_reads hreads hrows season⟩

end

namespace RepeatedOdds

/-- ASCII services that read no date. -/
@[reducible]
def plainServices : CsvServices where
  casefold := asciiLower
  upper := asciiUpper
  digit? := digitValue?
  decimal _ := none
  strptimeDate _ _ := none
  strptimeTime _ _ := none
  date_length _ _ hsome := absurd hsome Bool.false_ne_true
  zoneInfo _ := none
  isoLocal _ _ _ := ""

instance : CsvServices := plainServices

/-- Two odds columns of one name stand between the teams. -/
def text : String := "HomeTeam,B365,B365,AwayTeam,FTHG\nArsenal,1.5,2.5,Chelsea,3\n"

def league : LeagueConfig :=
  ⟨"premier_league", "Premier League", "England", "E0", some "en.1", "Europe/London"⟩

def header : Header := ⟨["HomeTeam", "B365", "B365", "AwayTeam", "FTHG"]⟩

def record : List String := ["Arsenal", "1.5", "2.5", "Chelsea", "3"]

theorem reads_text : Reads text header [record] where
  visible := by decide
  records := ⟨',', by decide, by decide +kernel⟩
  wellFormed := ⟨by decide, by decide +kernel, by decide +kernel⟩

/-- The away team is the goals cell, not the cell under its header. -/
theorem away_team_shifted :
    ¬∀ content league season dataset header rest,
      parseContent content league season = .ok dataset → Reads content.decode header rest →
        List.Forall₂ (fun item row =>
            readValues league item.2 header.normalized (cellUnder header item.1) = .ok row.values)
          ((rawRows rest).zipIdx 2) dataset.rows := by
  intro hclaim
  have hteams : ((parseContent (.text text) league "2026-27").toOption.map fun dataset =>
      dataset.rows.map fun row => row.values.awayTeam) = some ["3"] := by
    decide
  obtain ⟨dataset, hdataset, haway⟩ := Option.map_eq_some_iff.mp hteams
  have hparse : parseContent (.text text) league "2026-27" = .ok dataset := by
    cases hcall : parseContent (.text text) league "2026-27" with
    | error error =>
        rw [hcall] at hdataset
        cases hdataset
    | ok found =>
        rw [hcall] at hdataset
        exact congrArg Except.ok (Option.some.inj hdataset)
  have hrows := hclaim (.text text) league "2026-27" dataset header [record] hparse reads_text
  have hunder : ((readValues league 2 header.normalized (cellUnder header record)).toOption.map
      fun values => values.awayTeam) = some "Chelsea" := by
    decide
  change List.Forall₂ _ [(record, 2)] dataset.rows at hrows
  generalize dataset.rows = rows at hrows haway
  cases hrows with
  | cons hrow hrest =>
      rw [hrow] at hunder
      have hchelsea := Option.some.inj hunder
      have hthree := List.head_eq_of_cons_eq haway
      rw [hchelsea] at hthree
      exact absurd hthree (by decide)

/-- The same odds columns to the right of the used columns. -/
def plainText : String := "HomeTeam;AwayTeam;FTHG;B365;B365\nArsenal;Chelsea;3\n"

def plainHeader : Header := ⟨["HomeTeam", "AwayTeam", "FTHG", "B365", "B365"]⟩

theorem reads_plainText : Reads plainText plainHeader [["Arsenal", "Chelsea", "3"]] where
  visible := by decide
  records := ⟨';', by decide, by decide +kernel⟩
  wellFormed := ⟨by decide, by decide +kernel, by decide +kernel⟩

theorem undisturbed_plainHeader : Undisturbed plainHeader := by
  have hcolumns : ∀ key ∈ usedKeys plainHeader,
      (plainHeader.columnOf key).all (· ≤ 2) = true := by
    decide
  intro key hkey column hcolumn
  have hleft := hcolumns key hkey
  rw [hcolumn, Option.all_some, decide_eq_true_iff] at hleft
  interval_cases column <;> decide

theorem teamsPresent_plainText :
    ∀ record ∈ rawRows [["Arsenal", "Chelsea", "3"]],
      TeamsPresent (cellUnder plainHeader record) := by
  intro record hrecord key hkey
  rw [show record = ["Arsenal", "Chelsea", "3"] from List.mem_singleton.mp hrecord]
  rcases List.mem_cons.mp hkey with rfl | hkey
  · exact ⟨"Arsenal", by decide, by decide +kernel⟩
  · rw [List.mem_singleton.mp hkey]
    exact ⟨"Chelsea", by decide, by decide +kernel⟩

theorem plainText_returned :
    ∃ dataset, parseContent (.text plainText) league "2026-27" = .ok dataset := by
  refine (cells_under_headers.2.2 (.text plainText) plainHeader _ league "2026-27" reads_plainText
    undisturbed_plainHeader teamsPresent_plainText).mpr fun record hrecord => ?_
  have hreturned : (parseRow league plainHeader 2 ["Arsenal", "Chelsea", "3"]).toOption.isSome =
      true := by
    decide
  have hteams := teamsPresent_plainText record hrecord
  rw [show record = ["Arsenal", "Chelsea", "3"] from List.mem_singleton.mp hrecord] at hteams ⊢
  refine (parseRow_iff reads_plainText.wellFormed undisturbed_plainHeader hteams 2).mp ?_
  cases hcall : parseRow league plainHeader 2 ["Arsenal", "Chelsea", "3"] with
  | error error =>
      rw [hcall] at hreturned
      cases hreturned
  | ok row => exact ⟨row, rfl⟩

end RepeatedOdds

end MatchVet.Ingestion.FootballData
