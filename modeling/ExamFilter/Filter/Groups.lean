import ExamFilter.Form.Reading
import ExamFilter.Table

/-!
# Alias groups

Some selectable values stand for several stored ones. A group table says which, dimension by
dimension.
-/
namespace ExamFilter.Filter

/-- The members of the groups of one dimension. -/
abbrev Groups := Table String (List String)

abbrev GroupTable := Table String Groups

/-- A dimension without an entry has no groups. -/
def GroupTable.groupsFor (t : GroupTable) (dimension : String) : Groups :=
  (Table.get? t dimension).getD []

/-- The groups of the stream dimension that are used when no table is given. -/
def GroupTable.builtin : GroupTable :=
  [("Stream",
    [("JR ELITE", ["JR ELITE", "JR ELITE & AIIMS"]),
     ("JR AIIMS", ["JR AIIMS", "JR ELITE & AIIMS"]),
     ("SR ELITE", ["SR ELITE", "SR_ELITE_SET_01", "SR_ELITE_SET_02"])])]

open Form

/-- The table given by pairs, provided that every group lists texts. A dimension or group that is
named twice counts with its last entry. -/
def GroupTable.read (pairs : List (String × List (String × Value))) : Checked GroupTable :=
  .all
    (fun _ d => (Checked.all
        (fun _ g => (readTexts [.field "dimensions", .field d.1, .field g.1] g.2).map
          fun members => (g.1, members))
        0 (Table.ofPairs d.2)).map fun groups => (d.1, groups))
    0 (Table.ofPairs pairs)

end ExamFilter.Filter
