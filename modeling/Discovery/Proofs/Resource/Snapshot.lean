import Discovery.Proofs.Json.Reading
import Discovery.Proofs.Resource.Spelling
import Discovery.Resource.Info
import Discovery.Table.Lemmas

namespace Discovery

/-!
# Snapshots survive being written

The JSON form of a snapshot is read as the snapshot that it was written for,
whatever characters its texts hold and however many attributes it has, and it is
a single line: no byte of it is a control character (`ResourceInfo.parse?_json`).
-/

namespace ResourceInfo

section Members

/-- An attribute as the member of an object. -/
def attributeMember (entry : String × String) : Json.Member :=
  ⟨entry.1, Json.quote entry.2, .text (some entry.2)⟩

/-- Attributes as the value that they are read as. -/
def attributesValue (attributes : Attributes) : Json.Value :=
  .object ((attributes.entries.map attributeMember).map Json.Member.entry)

/-- The members of a snapshot. -/
def members (info : ResourceInfo) : List Json.Member :=
  [ ⟨"id", Json.quote info.id.text, .text (some info.id.text)⟩
  , ⟨"category", Json.quote info.category, .text (some info.category)⟩
  , ⟨"connection", Json.quote info.connection, .text (some info.connection)⟩
  , ⟨"attributes", attributesJson info.attributes, attributesValue info.attributes⟩ ]

theorem attributesJson_eq (attributes : Attributes) :
    attributesJson attributes =
      '\x7b' ::
        (Text.join ',' ((attributes.entries.map attributeMember).map Json.Member.text) ++
          ['\x7d']) := by
  rw [attributesJson, List.map_map]
  rfl

theorem json_eq (info : ResourceInfo) :
    info.json =
      String.ofList ('\x7b' :: (Text.join ',' (info.members.map Json.Member.text) ++ ['\x7d'])) :=
  rfl

/-- Attributes are read as the value of their entries. -/
theorem spells_attributesJson (attributes : Attributes) :
    Json.Spells (attributesJson attributes) (attributesValue attributes) := by
  rw [attributesJson_eq]
  refine Json.spells_object (List.forall_mem_map.mpr fun entry _ => ?_)
  exact Json.spells_quote entry.2

theorem spells_members (info : ResourceInfo) :
    ∀ member ∈ info.members, Json.Spells member.written member.value := by
  simp only [members, List.forall_mem_cons]
  exact ⟨Json.spells_quote _, Json.spells_quote _, Json.spells_quote _,
    spells_attributesJson info.attributes, List.forall_mem_nil _⟩

end Members

section Lines

theorem isLine_attributesJson (attributes : Attributes) :
    Json.IsLine (attributesJson attributes) := by
  rw [attributesJson_eq]
  refine Json.isLine_object (List.forall_mem_map.mpr fun entry _ => ?_)
  exact Json.isLine_quote entry.2

theorem isLine_json (info : ResourceInfo) : Json.IsLine info.json.toList := by
  rw [json_eq, String.toList_ofList]
  refine Json.isLine_object ?_
  simp only [members, List.forall_mem_cons]
  exact ⟨Json.isLine_quote _, Json.isLine_quote _, Json.isLine_quote _,
    isLine_attributesJson info.attributes, List.forall_mem_nil _⟩

end Lines

section Reading

/-- What gives back the entry of every member gives back all entries. -/
theorem mapM_entries
    {read : Option String × Json.Value → Option (String × String)}
    (reads : ∀ entry, read (attributeMember entry).entry = some entry)
    (entries : List (String × String)) :
    ((entries.map attributeMember).map Json.Member.entry).mapM read = some entries := by
  induction entries with
  | nil => rfl
  | cons entry rest inductionHypothesis =>
      simp only [List.map_cons, List.mapM_cons, reads, inductionHypothesis]
      rfl

/-- Attributes are read back from their value. -/
theorem readAttributes?_attributesValue (attributes : Attributes) :
    readAttributes? (attributesValue attributes) = some attributes := by
  rw [attributesValue, readAttributes?, mapM_entries fun _ => rfl]
  exact congrArg some attributes.ofList_entries

/-- A snapshot is read back from its members. -/
theorem ofValue?_members (info : ResourceInfo) :
    ofValue? (.object (info.members.map Json.Member.entry)) = some info := by
  have readsId : readId? (.text (some info.id.text)) = some info.id := by
    simp only [readId?, Json.Value.text?, Option.bind_some, ResourceId.parse_text]
    rfl
  have reads : ofValues? (.text (some info.id.text)) (.text (some info.category))
      (.text (some info.connection)) (attributesValue info.attributes) = some info := by
    simp only [ofValues?, readsId, readAttributes?_attributesValue]
    rfl
  exact reads

/--
The JSON form of a snapshot is read as the same snapshot, and every byte of it is
0x20 or greater, so that it is a single line.
-/
theorem parse?_json (info : ResourceInfo) :
    parse? info.json = some info ∧ ∀ byte ∈ Bytes.ofText info.json, 0x20 ≤ byte.toNat := by
  have read : Json.Value.parse? info.json = some (.object (info.members.map Json.Member.entry)) :=
    Json.parse?_of_spells (Json.spells_object info.spells_members)
  refine ⟨?_, Bytes.le_of_mem_ofText (by decide) info.isLine_json⟩
  rw [parse?, read, Option.bind_some, ofValue?_members]

/-- Quotes, backslashes and control characters are escaped, and nothing else is. -/
example :
    json ⟨.nil, "a\"\\", "\n\x01é", Table.ofList [("", "v")]⟩ =
      "\x7b\"id\":\"00000000000000000000000000000000\",\"category\":\"a\\\"\\\\\"," ++
        "\"connection\":\"\\n\\u0001é\",\"attributes\":\x7b\"\":\"v\"\x7d\x7d" := by
  decide +kernel

end Reading

end ResourceInfo

end Discovery
