import PageCheck.Proofs.Json.Records
import PageCheck.Report.Summary

/-!
# Decoding reports and summaries

What a report is in JSON is decoded as the report. Of a summary only the list of groups counts:
members next to the body are passed over, and so are the counts inside it, whatever they say.
-/

namespace PageCheck

open Json (draftMembers draftMembers_eq_map decodeRecord recordMembers_take decodeRecord_filter
  decodeRecord_middle decodeRecord_first decodeList decodeList_draft)

/-! ### Reports and groups -/

/-- The record of a validation's report is decoded as the report. -/
theorem ValidationReport.decode_record (report : ValidationReport) :
    decodeRecord shape ⟨"", "", "", "", false, none⟩ takeField report.record.draft =
      .ok report := by
  obtain ⟨browser, validationType, target, state, success, msg⟩ := report
  cases msg <;> rfl

/-- What a report is in JSON is decoded as the report. -/
theorem Report.decode_toJson (report : Report) : decode report.toJson.draft = .ok report := by
  cases report with
  | validation report =>
    change decodeKind validationKey (some report.record.draft) = _
    rw [decodeKind, if_pos rfl]
    simp only [report.decode_record]
    rfl
  | stepFailure report => rfl

/-- What a group is in JSON is decoded as the group. -/
theorem BrowserReports.decode_toJson (group : BrowserReports) :
    decode group.toJson.draft = .ok group := by
  have hreports : decodeList Report.decode
      (Json.array (group.reports.map Report.toJson)).draft = .ok group.reports :=
    decodeList_draft fun report _ => report.decode_toJson
  have hfield : takeField ⟨group.browser, []⟩ "reports"
      (Json.array (group.reports.map Report.toJson)).draft = .ok group := by
    rw [takeField, if_neg (by decide), hreports]
    rfl
  change decodeRecord shape ⟨"", []⟩ takeField (.object [("browser", .string group.browser),
    ("reports", (Json.array (group.reports.map Report.toJson)).draft)] .inMemory) = _
  rw [decodeRecord, recordMembers_take rfl rfl rfl, recordMembers_take rfl rfl hfield]
  rfl

/-! ### Summaries -/

namespace ReportSummary

/-- What stands under the key of a written summary is decoded as the summary. -/
theorem decode_body (summary : ReportSummary) :
    decodeRecord bodyShape empty takeBrowsers summary.body.draft = .ok summary := by
  have hgroups : decodeList BrowserReports.decode
      (Json.array (summary.groups.map BrowserReports.toJson)).draft = .ok summary.groups :=
    decodeList_draft fun group _ => group.decode_toJson
  have hfield : takeBrowsers empty "browsers"
      (Json.array (summary.groups.map BrowserReports.toJson)).draft = .ok summary := by
    rw [takeBrowsers, hgroups]
    rfl
  rw [body, Json.draft, decodeRecord_filter rfl]
  change decodeRecord bodyShape empty takeBrowsers (.object [("browsers",
    (Json.array (summary.groups.map BrowserReports.toJson)).draft)] .inMemory) = _
  rw [decodeRecord, recordMembers_take rfl rfl hfield]
  rfl

/-- A written summary is decoded as the summary, whatever members stand after its own. -/
theorem decode_members_append (summary : ReportSummary) {others : Members}
    (foreign : bodyKey ∉ others.keys) :
    decode (Json.object (summary.members ++ others)).draft = .ok summary := by
  have hnone : (draftMembers others).filter (fun member => shape.names.contains member.1) = [] := by
    rw [List.filter_eq_nil_iff, draftMembers_eq_map]
    intro member hmem hknown
    obtain ⟨other, hother, rfl⟩ := List.mem_map.mp hmem
    have hkey : other.1 = bodyKey := List.mem_singleton.mp (List.contains_iff_mem.mp hknown)
    exact foreign (hkey ▸ List.mem_map_of_mem hother)
  have hfilter : (draftMembers (summary.members ++ others)).filter
      (fun member => shape.names.contains member.1) = [(bodyKey, summary.body.draft)] := by
    change (bodyKey, summary.body.draft) :: (draftMembers others).filter _ = _
    rw [hnone]
  rw [Json.draft, decode, decodeRecord_filter rfl, hfilter, decodeRecord,
    recordMembers_take rfl rfl summary.decode_body]
  rfl

/-- What a summary is in JSON is decoded as the summary. -/
theorem decode_toJson (summary : ReportSummary) : decode summary.toJson.draft = .ok summary := by
  rw [toJson, ← List.append_nil summary.members]
  exact summary.decode_members_append List.not_mem_nil

/-! ### Counts are passed over -/

/-- The keys of the counts of a written summary. -/
def countKeys : List String := ["totalReports", "successes", "failures", "criticalFailures"]

/-- The members of an object without counts. -/
def withoutCounts (members : Members) : Members :=
  members.filter fun member => !countKeys.contains member.1

/-- Two values that differ at most in the counts of the summary that is written in them, be it
under its key or as the first of the fields of a record without keys. -/
inductive Recounted : Json → Json → Prop
  | keyed (before after : Members) {body other : Members}
      (same : withoutCounts body = withoutCounts other) :
      Recounted (.object (before ++ (bodyKey, .object body) :: after))
        (.object (before ++ (bodyKey, .object other) :: after))
  | positional (rest : List Json) {body other : Members}
      (same : withoutCounts body = withoutCounts other) :
      Recounted (.array (.object body :: rest)) (.array (.object other :: rest))

/-- The counts of a body are none of the fields that are decoded. -/
theorem filter_withoutCounts (members : Members) :
    (draftMembers members).filter (fun member => bodyShape.names.contains member.1) =
      (draftMembers (withoutCounts members)).filter
        (fun member => bodyShape.names.contains member.1) := by
  have hcounts : ∀ member : String × Json, bodyShape.names.contains member.1 = true →
      (!countKeys.contains member.1) = true := by
    intro member hknown
    have hkey : member.1 = "browsers" :=
      List.mem_singleton.mp (List.contains_iff_mem.mp hknown)
    rw [hkey]
    decide
  rw [draftMembers_eq_map, draftMembers_eq_map, withoutCounts, List.filter_map, List.filter_map,
    List.filter_filter]
  congr 1
  apply List.filter_congr
  intro member _
  simp only [Function.comp]
  cases hknown : bodyShape.names.contains member.1 with
  | false => rfl
  | true => rw [hcounts member hknown, Bool.and_self]

/-- Bodies that differ at most in the counts are decoded alike, since decoding cuts a body down to
its other fields. -/
theorem takeBody_withoutCounts {body other : Members}
    (same : withoutCounts body = withoutCounts other) (state : ReportSummary) (key : String) :
    takeBody state key (Json.object body).draft = takeBody state key (Json.object other).draft := by
  rw [takeBody, takeBody, Json.draft, Json.draft, decodeRecord_filter rfl,
    filter_withoutCounts body, same, ← filter_withoutCounts other, ← decodeRecord_filter rfl]

/-- Values that differ at most in the counts are decoded alike. -/
theorem Recounted.decode_eq {value other : Json} (recounted : Recounted value other) :
    decode value.draft = decode other.draft := by
  cases recounted with
  | keyed before after same =>
    rw [Json.draft, Json.draft, draftMembers_eq_map, draftMembers_eq_map, List.map_append,
      List.map_append, List.map_cons, List.map_cons]
    exact decodeRecord_middle (fun state => takeBody_withoutCounts same state bodyKey) _ _ _ _
  | positional rest same =>
    exact decodeRecord_first (takeBody_withoutCounts same) _ _ _

end ReportSummary

end PageCheck
