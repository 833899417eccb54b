import Iicp.Rust.JsonText

/-!
# The node log

`NodeLog::write` appends an event to the text log of a node and to `events.jsonl`, whose records are
put together by formatting: only the double quotes of the details are replaced. An event is on one
line of each file and can be read from `events.jsonl` exactly if its texts need no escapes
(`write_recorded_iff`): an escape would be read as fewer characters than it has, so that the line is
too short for what must be read from it.
-/

namespace Iicp.Node.Log

open Rust Json List

/-! ### Writing -/

/-- The time as `iso_now` writes it: digits and the marks between them. -/
structure Timestamp where
  text : String
  plain : ∀ char ∈ text.toList, char.isDigit ∨ char ∈ ['-', 'T', ':', 'Z']

def maxLogBytes : ℕ := 10 * 1024 * 1024

def maxRotations : ℕ := 3

/-- A log file and, from number 1 on, its older generations. -/
abbrev Generations := ℕ → Option (List Char)

def rename (files : Generations) (source target : ℕ) : Generations :=
  match files source with
  | none => files
  | some content => Function.update (Function.update files source none) target (some content)

def rotate (files : Generations) : Generations :=
  rename ((range' 1 (maxRotations - 1)).reverse.foldl (fun files i ↦ rename files i (i + 1)) files) 0 1

def appendRotating (files : Generations) (data : String) : Generations :=
  let files := if (files 0).any (maxLogBytes ≤ byteLength ·) then rotate files else files
  Function.update files 0 (some ((files 0).getD [] ++ data.toList))

structure NodeLog where
  (text jsonl : Generations)

def singleQuoted (details : String) : String :=
  .ofList (details.toList.map fun char ↦ if char = quote then Char.ofNat 39 else char)

def textRecord (ts event nodeId details : String) : String :=
  ts ++ " [" ++ event ++ "] node=" ++ nodeId ++ " " ++ details ++ "\n"

def jsonlRecord (ts event nodeId details : String) : String :=
  "\x7b\"ts\":\"" ++ ts ++ "\",\"event\":\"" ++ event ++ "\",\"node_id\":\"" ++ nodeId ++
    "\",\"details\":\"" ++ singleQuoted details ++ "\"\x7d\n"

def NodeLog.write (log : NodeLog) (ts : Timestamp) (event nodeId details : String) : NodeLog :=
  ⟨appendRotating log.text (textRecord ts.text event nodeId details),
    appendRotating log.jsonl (jsonlRecord ts.text event nodeId details)⟩

/-! ### Records -/

/-- The data was added to a file, after its content or, when that went to the first generation, as the
start of a new file. -/
def Appended (before after : Generations) (data : String) : Prop :=
  after 0 = some ((before 0).getD [] ++ data.toList) ∨
    after 1 = before 0 ∧ after 0 = some data.toList

def OneLine (record : String) (line : List Char) : Prop :=
  record.toList = line ++ ['\n'] ∧ '\n' ∉ line

/-- The records of an event are one line each, and the event can be read from its line of
`events.jsonl`. -/
def Recorded (now : Timestamp) (event nodeId details : String) : Prop :=
  (∃ line, OneLine (textRecord now.text event nodeId details) line) ∧
    ∃ line ts, OneLine (jsonlRecord now.text event nodeId details) line ∧
      readText line = some (.object [("ts", .string ts), ("event", .string event),
        ("node_id", .string nodeId), ("details", .string (singleQuoted details))])

lemma rename_zero (files : Generations) {source target : ℕ} (hsource : source ≠ 0)
    (htarget : target ≠ 0) : rename files source target 0 = files 0 := by
  unfold rename
  cases files source with
  | none => rfl
  | some =>
    dsimp only
    rw [Function.update_of_ne htarget.symm, Function.update_of_ne hsource.symm]

lemma rotate_of_some {files : Generations} {content : List Char} (h : files 0 = some content) :
    rotate files 0 = none ∧ rotate files 1 = some content := by
  have hkept : rename (rename files 2 3) 1 2 0 = some content := by
    rw [rename_zero _ (by decide) (by decide), rename_zero _ (by decide) (by decide), h]
  change rename (rename (rename files 2 3) 1 2) 0 1 0 = none ∧
    rename (rename (rename files 2 3) 1 2) 0 1 1 = some content
  rw [rename, hkept]
  exact ⟨rfl, rfl⟩

lemma appended_appendRotating (files : Generations) (data : String) :
    Appended files (appendRotating files data) data := by
  unfold Appended appendRotating
  split_ifs with hfull
  · obtain ⟨content, hcontent, -⟩ := (Option.any_eq_true _ _).mp hfull
    obtain ⟨hnone, hmoved⟩ := rotate_of_some hcontent
    right
    simp [hnone, hmoved, hcontent]
  · left
    simp

/-- Nothing in the text has to be escaped. -/
def Clean (text : String) : Prop := ∀ char ∈ text.toList, Unescaped char

lemma Timestamp.clean (ts : Timestamp) : Clean ts.text := by
  intro char hchar
  rcases ts.plain char hchar with hdigit | hmark
  · have hlow : 48 ≤ char.toNat := (Char.isDigit_iff_toNat.mp hdigit).1
    refine ⟨by omega, ?_, ?_⟩ <;> rintro rfl <;> exact absurd hdigit (by decide)
  · simp only [mem_cons, not_mem_nil, or_false] at hmark
    rcases hmark with rfl | rfl | rfl | rfl <;> decide

/-- An object of strings is read back from its text, whatever the order of its keys. -/
lemma readText_strings (entries : List (String × String)) :
    let value := object (entries.map fun entry ↦ (entry.1, .string entry.2))
    readText (value.jsonText fun _ ↦ []) = some value := by
  intro value
  have hread : readValue 127 (value.jsonText (fun _ ↦ []) ++ []) = some (value, []) := by
    refine readValue_object _ (forall_mem_map.mpr fun entry _ rest hrest ↦ ?_)
    exact readValue_jsonText _ trivial (Nat.zero_le _) hrest
  rw [append_nil] at hread
  rw [readText, hread]

lemma Clean.newline {text : String} (h : Clean text) : '\n' ∉ text.toList :=
  fun hmem ↦ absurd (h _ hmem).1 (by decide)

variable {ts event nodeId details : String}

def jsonlLine (ts event nodeId details : String) : List Char :=
  '{' :: (quote :: "ts".toList ++ quote :: ':' :: quote :: ts.toList ++ quote :: ',' ::
    quote :: "event".toList ++ quote :: ':' :: quote :: event.toList ++ quote :: ',' ::
    quote :: "node_id".toList ++ quote :: ':' :: quote :: nodeId.toList ++ quote :: ',' ::
    quote :: "details".toList ++ quote :: ':' :: quote :: (singleQuoted details).toList ++
      [quote, '}'])

lemma jsonlRecord_eq : (jsonlRecord ts event nodeId details).toList =
    jsonlLine ts event nodeId details ++ ['\n'] := by
  simp only [jsonlRecord, jsonlLine, String.toList_append, append_assoc, cons_append, nil_append]
  rfl

/-- The line of clean texts is the text of a JSON object. -/
lemma jsonlLine_eq (hts : Clean ts) (hevent : Clean event) (hnodeId : Clean nodeId)
    (hdetails : Clean (singleQuoted details)) :
    jsonlLine ts event nodeId details =
      (object [("ts", .string ts), ("event", .string event), ("node_id", .string nodeId),
        ("details", .string (singleQuoted details))]).jsonText fun _ ↦ [] := by
  have hkeys : stringText "ts" = quote :: ("ts".toList ++ [quote]) ∧
      stringText "event" = quote :: ("event".toList ++ [quote]) ∧
      stringText "node_id" = quote :: ("node_id".toList ++ [quote]) ∧
      stringText "details" = quote :: ("details".toList ++ [quote]) := by decide
  simp only [jsonText, fieldsText, stringText_of_unescaped hts, stringText_of_unescaped hevent,
    stringText_of_unescaped hnodeId, stringText_of_unescaped hdetails, hkeys, jsonlLine,
    append_assoc, cons_append, nil_append]

/-- The text of an object that is not empty holds its entries after the brace. -/
lemma readFields_of_readText {input : List Char} {field : String × Json}
    {others : List (String × Json)}
    (h : readText ('{' :: input) = some (.object (field :: others))) :
    readFields (readValue 126) input.length input = some (field :: others, []) := by
  have hvalue : readValue 127 ('{' :: input) = some (.object (field :: others), []) := by
    unfold readText at h
    split at h
    · rename_i hread
      rw [hread, Option.some.inj h]
    · nomatch h
  rw [readValue.eq_def] at hvalue
  dsimp only at hvalue
  split at hvalue <;> simp_all

/-- A line from which the event can be read is that of clean texts: any escape would make it longer. -/
lemma clean_of_readText {other : String} (hts : Clean ts)
    (h : readText (jsonlLine ts event nodeId details) = some (.object [("ts", .string other),
      ("event", .string event), ("node_id", .string nodeId),
      ("details", .string (singleQuoted details))])) :
    Clean event ∧ Clean nodeId ∧ Clean (singleQuoted details) := by
  obtain ⟨rest, hline⟩ : ∃ rest, jsonlLine ts event nodeId details =
      '{' :: (stringText "ts" ++ ':' :: ((Json.string ts).jsonText (fun _ ↦ []) ++ ',' :: rest)) := by
    have hkey : stringText "ts" = quote :: ("ts".toList ++ [quote]) := by decide
    simp only [jsonText, stringText_of_unescaped hts, hkey, jsonlLine, append_assoc, cons_append,
      nil_append]
    exact ⟨_, rfl⟩
  set input := stringText "ts" ++ ':' :: ((Json.string ts).jsonText (fun _ ↦ []) ++ ',' :: rest)
  have hread : readFields (readValue 126) input.length input =
      some ([("ts", .string other), ("event", .string event), ("node_id", .string nodeId),
        ("details", .string (singleQuoted details))], []) := by
    rw [hline] at h
    exact readFields_of_readText h
  have hfirst : readField (readValue 126) input = some (("ts", .string ts), ',' :: rest) :=
    readField_stringText _ "ts" (readValue_jsonText _ trivial (Nat.zero_le _) (by simp [Ended]))
  obtain rfl : ts = other := by
    cases hbound : input.length with
    | zero => rw [hbound] at hread; cases hread
    | succ bound =>
      rw [hbound, readFields, hfirst] at hread
      obtain ⟨_, -, hfields⟩ := Option.map_eq_some_iff.mp hread
      simpa using congrArg (·.1.head?) hfields
  let entries := [("ts", ts), ("event", event), ("node_id", nodeId),
    ("details", singleQuoted details)]
  have hentries := @readFields_strings 126 _ input [] entries hread
  have hlength : input.length = (entries.map entrySize).sum := by
    have hsize := congrArg length hline
    simp only [jsonlLine, length_cons, length_append, length_nil] at hsize
    simp only [entries, entrySize, map_cons, map_nil, sum_cons, sum_nil]
    omega
  have hclean := hentries.2 (by rw [hlength]; rfl)
  simp only [entries, forall_mem_cons] at hclean
  exact ⟨hclean.2.1, hclean.2.2.1, hclean.2.2.2.1⟩

lemma clean_singleQuoted_iff : Clean (singleQuoted details) ↔
    ∀ char ∈ details.toList, 32 ≤ char.toNat ∧ char ≠ backslash := by
  rw [Clean, singleQuoted, String.toList_ofList, forall_mem_map]
  refine forall₂_congr fun char _ ↦ ?_
  split_ifs with hquote
  · subst hquote
    decide
  · simp [Unescaped, hquote]

lemma recorded_iff (now : Timestamp) : Recorded now event nodeId details ↔
    Clean event ∧ Clean nodeId ∧ ∀ char ∈ details.toList, 32 ≤ char.toNat ∧ char ≠ backslash := by
  rw [← clean_singleQuoted_iff]
  constructor
  · rintro ⟨-, line, ts, ⟨hrecord, -⟩, hread⟩
    obtain rfl := append_cancel_right (jsonlRecord_eq.symm.trans hrecord)
    exact clean_of_readText now.clean hread
  · rintro ⟨hevent, hnodeId, hdetails⟩
    have hbreak : '\n' ∉ details.toList :=
      fun hmem ↦ absurd (clean_singleQuoted_iff.mp hdetails _ hmem).1 (by decide)
    refine ⟨⟨_, String.toList_append .., ?_⟩, _, now.text, ⟨jsonlRecord_eq, ?_⟩, ?_⟩
    · simp [now.clean.newline, hevent.newline, hnodeId.newline, hbreak]
    · simp [jsonlLine, now.clean.newline, hevent.newline, hnodeId.newline, hdetails.newline, quote]
    · rw [jsonlLine_eq now.clean hevent hnodeId hdetails]
      exact readText_strings [("ts", now.text), ("event", event), ("node_id", nodeId),
        ("details", singleQuoted details)]

/-- Writing an event appends its record to each file. The records are one line each from which the
event can be read exactly if there is no control character and no backslash in the texts, and no
double quote in the event and the node id. -/
theorem write_recorded_iff (log : NodeLog) (now : Timestamp) (event nodeId details : String) :
    Appended log.text (log.write now event nodeId details).text
        (textRecord now.text event nodeId details) ∧
      Appended log.jsonl (log.write now event nodeId details).jsonl
        (jsonlRecord now.text event nodeId details) ∧
      (Recorded now event nodeId details ↔ Clean event ∧ Clean nodeId ∧
        ∀ char ∈ details.toList, 32 ≤ char.toNat ∧ char ≠ backslash) :=
  ⟨appended_appendRotating _ _, appended_appendRotating _ _, recorded_iff now⟩

def NodeLog.empty : NodeLog := ⟨fun _ ↦ none, fun _ ↦ none⟩

def epoch : Timestamp := ⟨"1970-01-01T00:00:00Z", by simp⟩

/-- Quotes in the details do not break a record. -/
example : Recorded epoch "heartbeat_fail" "node" "error=\"refused\"" :=
  (recorded_iff epoch).mpr ⟨by simp [Clean]; decide, by simp [Clean]; decide, by simp; decide⟩

/-- A line break in the details makes two lines of a record. -/
theorem write_not_recorded :
    (NodeLog.empty.write epoch "heartbeat_fail" "node" "error=reset\nby peer").text 0 =
        some "1970-01-01T00:00:00Z [heartbeat_fail] node=node error=reset\nby peer\n".toList ∧
      ¬ Recorded epoch "heartbeat_fail" "node" "error=reset\nby peer" := by
  refine ⟨by decide +kernel, fun hrecorded ↦ ?_⟩
  have hdetails := ((recorded_iff epoch).mp hrecorded).2.2 '\n' (by decide +kernel)
  exact absurd hdetails.1 (by decide)

end Iicp.Node.Log
