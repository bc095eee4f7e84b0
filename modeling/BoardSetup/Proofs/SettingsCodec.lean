import BoardSetup.Proofs.SettingsDocument
import BoardSetup.Proofs.Utf8
import BoardSetup.Proofs.Locations
import BoardSetup.Settings.File

/-!
# Settings files over a JSON codec

Settings are written and read through a text format, a `Codec`. What is proved here needs of it
only what the JSON format promises (`Codec.Laws`), for a relation `Holds src v` saying that the
text `src` is a JSON text of the document `v`: settings are written as a text that holds their
document (`toValue`, every field in order), and a text that holds a document reads as that
document does (`ofValue`). The codec of settings files, `json`, keeps the laws for every JSON text
of an object whose keys that name fields hold values of their kinds, whatever the whitespace
between its tokens (`ObjectText`, `json_laws`).

Under the laws, settings read back from what they are written as, since each field's datum reads
back from its value and setting every field of the stock settings in order gives the settings
written (`ofValue_toValue`); a file that was saved holds the UTF-8 bytes of that text and loads as
the settings. A text holding an object with distinct keys reads as the stock settings with each
field the object names set, whatever the order of its keys and whatever its other keys; a field
named twice is refused, and a file holding such a text fails to load as invalid JSON.

Main statements: `saved_reads_back`, `settings_object_fills_defaults`.
-/

namespace BoardSetup.Settings

open Json

/-- What the JSON format promises of a codec, for a relation `Holds src v` saying that the text
`src` is a JSON text of the document `v`: settings whose job count fits 64 bits are written as a
text that holds their document, and a text that holds a document reads as the document does. -/
structure Codec.Laws (c : Codec) (Holds : String → Value → Prop) : Prop where
  writes : ∀ s : Settings, (∀ n ∈ s.jobs, n ≤ u64Max) → Holds (c.render s) s.toValue
  reads : ∀ src v, Holds src v → ∀ s, c.read src = .ok s ↔ ofValue v = .ok s

/-! ## The document of settings -/

section Document

theorem Datum.toValue_written (d : Datum) : d.toValue.Written := by
  cases d with
  | absent => exact .null
  | text s => exact .str s
  | flag b => exact .bool b
  | list xs =>
    refine .arr _ fun x hx => ?_
    obtain ⟨y, -, rfl⟩ := List.mem_map.1 hx
    exact .str y
  | count n => exact .num _ (numberText_unsigned n)

theorem toValue_eq (s : Settings) :
    s.toValue = .obj (Key.all.map fun k => (k.name, (s.get k).toValue)) := rfl

theorem fieldsTyped_toValue (s : Settings) (hj : ∀ n ∈ s.jobs, n ≤ u64Max) :
    FieldsTyped (Key.all.map fun k => (k.name, (s.get k).toValue)) := by
  intro k v h
  obtain ⟨k', -, he⟩ := List.mem_map.1 h
  obtain ⟨hname, rfl⟩ := Prod.mk.inj he
  obtain rfl := name_inj hname
  exact ⟨s.get k', get_holds s hj k', rfl⟩

theorem names_nodup : (Key.all.map fun k => k.name).Nodup := by decide

theorem lookup_toValue (s : Settings) (k : Key) :
    (Key.all.map fun k => (k.name, (s.get k).toValue)).lookup k.name = some (s.get k).toValue := by
  cases k <;> rfl

theorem ofValue_toValue (s : Settings) (hj : ∀ n ∈ s.jobs, n ≤ u64Max) :
    ofValue s.toValue = .ok s := by
  have hnd : ((Key.all.map fun k => (k.name, (s.get k).toValue)).map Prod.fst).Nodup := by
    rw [List.map_map]
    exact names_nodup
  obtain ⟨c, hc, hget⟩ := entriesOfValue_ok _ [] stock (fieldsTyped_toValue s hj) hnd
    (fun _ h => nomatch h)
  have hcs : c = s := ext_get fun k => Datum.toValue_inj (by rw [hget k, lookup_toValue]; rfl)
  rw [toValue_eq, ofValue, hc, hcs]

end Document

/-! ## The codec of settings files -/

/-- A JSON text of an object whose keys that name fields hold values of their kinds. -/
def ObjectText (src : String) (v : Value) : Prop :=
  ∃ kvs, v = .obj kvs ∧ FieldsTyped kvs ∧ Json.Document src.toList v

theorem toValue_written (s : Settings) : s.toValue.Written := by
  rw [toValue_eq]
  refine .obj _ fun kv h => ?_
  obtain ⟨k, -, rfl⟩ := List.mem_map.1 h
  exact Datum.toValue_written _

theorem json_laws : json.Laws ObjectText where
  writes s hj := ⟨_, toValue_eq s, fieldsTyped_toValue s hj, document_pretty (toValue_written s)⟩
  reads src v := by
    rintro ⟨kvs, rfl, htyped, hdoc⟩ s
    exact ofText_document_ok hdoc htyped s

/-! ## Files -/

namespace Codec

variable (c : Codec) {t t' : FileTree} {cwd : List String} {s : Settings} {p : String}

/-- A save succeeds only on a path that passes its check, by writing the UTF-8 bytes of the
text of the settings there. -/
theorem save_ok (h : c.save t cwd s p = (t', .ok ())) :
    checkPath p = .ok () ∧ ∃ t₁ : FileTree, t₁.write cwd p (Text.encode (c.render s)) = .ok t' := by
  unfold Codec.save at h
  split at h
  · cases h
  · rename_i hcheck
    refine ⟨hcheck, ?_⟩
    split at h
    rename_i t₁ made _
    split at h
    · cases h
    · split at h
      · rename_i t₂ hw
        cases h
        exact ⟨t₁, hw⟩
      · cases h

/-- A file that passes the path check and holds the UTF-8 bytes of a text loads as the text
reads, a text the format does not read making the file invalid JSON. -/
theorem load_text {src : String} (hp : checkPath p = .ok ())
    (hr : t.read cwd p = .ok (Text.encode src)) :
    c.load t cwd p = (c.read src).mapError .invalidJson := by
  unfold Codec.load
  simp only [bind, Except.bind, hp, hr, Text.decode?_encode, String.ofList_toList]

end Codec

/-- For every codec that keeps the laws of JSON, settings whose job count fits 64 bits read back
from the text they are written as, and a settings file that was saved loads as the settings
saved. -/
theorem saved_reads_back (c : Codec) (Holds : String → Value → Prop) (laws : c.Laws Holds)
    (s : Settings) (hj : ∀ n ∈ s.jobs, n ≤ u64Max) :
    c.read (c.render s) = .ok s ∧
      ∀ (t t' : FileTree) (cwd : List String) (p : String),
        c.save t cwd s p = (t', .ok ()) → c.load t' cwd p = .ok s := by
  have hread : c.read (c.render s) = .ok s :=
    (laws.reads _ _ (laws.writes s hj) s).2 (ofValue_toValue s hj)
  refine ⟨hread, fun t t' cwd p h => ?_⟩
  obtain ⟨hp, t₁, hw⟩ := c.save_ok h
  rw [c.load_text hp (FileTree.read_write hw), hread]
  rfl

/-- Settings files, with quotes, a backslash, control characters and non-ASCII text in a field,
an empty path, an absent command, no packages and the largest count. -/
theorem saved_reads_back_escapes :
    let s : Settings :=
      { chipName := "B\"L\\6\x01\n0é2"
        baseDir := some ""
        privilegeCommand := none
        packages := []
        jobs := some 18446744073709551615 }
    json.Laws ObjectText ∧ (∀ n ∈ s.jobs, n ≤ u64Max) ∧ json.read (json.render s) = .ok s ∧
      ∀ (t t' : FileTree) (cwd : List String) (p : String),
        json.save t cwd s p = (t', .ok ()) → json.load t' cwd p = .ok s :=
  ⟨json_laws, fun n hn => by cases hn; decide,
    saved_reads_back json ObjectText json_laws _ (fun n hn => by cases hn; decide)⟩

/-- For every codec that keeps the laws of JSON, take a text holding an object whose keys that
name fields hold values of their fields' kinds. With distinct keys it reads as the settings whose
fields hold the values given and the stock values where none is given, and a file holding the text
loads as them. Two such texts whose objects have the same field entries read alike, whatever the
order of their keys and whatever their other keys. A field named twice is refused, and a file
holding the text fails to load as invalid JSON. -/
theorem settings_object_fills_defaults (c : Codec) (Holds : String → Value → Prop)
    (laws : c.Laws Holds) (src : String) (kvs : List (String × Value))
    (hsrc : Holds src (.obj kvs)) (htyped : FieldsTyped kvs) :
    ((kvs.map Prod.fst).Nodup → ∃ s, c.read src = .ok s ∧
      (∀ k : Key, (s.get k).toValue = (kvs.lookup k.name).getD (stock.get k).toValue) ∧
      ∀ (t : FileTree) (cwd : List String) (p : String), checkPath p = .ok () →
        t.read cwd p = .ok (Text.encode src) → c.load t cwd p = .ok s) ∧
    (∀ (src' : String) (kvs' : List (String × Value)), Holds src' (.obj kvs') → FieldsTyped kvs' →
      (kvs.map Prod.fst).Nodup → (kvs'.map Prod.fst).Nodup →
      (∀ k : Key, kvs'.lookup k.name = kvs.lookup k.name) → c.read src' = c.read src) ∧
    ((∃ k : Key, 2 ≤ (kvs.map Prod.fst).count k.name) →
      (∃ m, c.read src = .error m) ∧
      ∀ (t : FileTree) (cwd : List String) (p : String), checkPath p = .ok () →
        t.read cwd p = .ok (Text.encode src) → ∃ m, c.load t cwd p = .error (.invalidJson m)) := by
  refine ⟨fun hnd => ?_, fun src' kvs' hsrc' htyped' hnd hnd' hsame => ?_, fun hdup => ?_⟩
  · -- distinct keys: each field holds its entry's value, or its stock value
    obtain ⟨s, hs, hget⟩ := entriesOfValue_ok kvs [] stock htyped hnd (fun _ h => nomatch h)
    have hread : c.read src = .ok s := (laws.reads _ _ hsrc s).2 hs
    exact ⟨s, hread, hget, fun t cwd p hp hr => by rw [c.load_text hp hr, hread]; rfl⟩
  · -- the fields are the same, so the settings are
    obtain ⟨s, hs, hget⟩ := entriesOfValue_ok kvs [] stock htyped hnd (fun _ h => nomatch h)
    obtain ⟨s', hs', hget'⟩ := entriesOfValue_ok kvs' [] stock htyped' hnd' (fun _ h => nomatch h)
    have hsettings : s' = s :=
      ext_get fun k => Datum.toValue_inj (by rw [hget' k, hget k, hsame k])
    rw [(laws.reads _ _ hsrc' s').2 hs', (laws.reads _ _ hsrc s).2 hs, hsettings]
  · -- a field named twice: the document is refused, and so is the text
    obtain ⟨k, hk⟩ := hdup
    obtain ⟨k', -, he⟩ := entriesOfValue_dup kvs [] stock htyped ⟨k, Or.inr hk⟩
    have herr : ∃ m, c.read src = .error m := by
      cases hr : c.read src with
      | error m => exact ⟨m, rfl⟩
      | ok s =>
        have hv : ofValue (.obj kvs) = .ok s := (laws.reads _ _ hsrc s).1 hr
        rw [ofValue, he] at hv
        cases hv
    obtain ⟨m, hm⟩ := herr
    exact ⟨⟨m, hm⟩, fun t cwd p hp hr => ⟨m, by rw [c.load_text hp hr, hm]; rfl⟩⟩

/-- The partial settings text `{ "chip_name": "BL604", "jobs": 2 }`, with blanks inside its braces
and after its colons and comma. -/
theorem settings_object_partial_text :
    let src := "\x7B \"chip_name\": \"BL604\", \"jobs\": 2 \x7D"
    let kvs : List (String × Value) := [("chip_name", .str "BL604"), ("jobs", .num (.unsigned 2))]
    json.Laws ObjectText ∧ ObjectText src (.obj kvs) ∧ FieldsTyped kvs ∧
      ((kvs.map Prod.fst).Nodup → ∃ s, json.read src = .ok s ∧
        (∀ k : Key, (s.get k).toValue = (kvs.lookup k.name).getD (stock.get k).toValue) ∧
        ∀ (t : FileTree) (cwd : List String) (p : String), checkPath p = .ok () →
          t.read cwd p = .ok (Text.encode src) → json.load t cwd p = .ok s) ∧
      (∀ (src' : String) (kvs' : List (String × Value)), ObjectText src' (.obj kvs') →
        FieldsTyped kvs' → (kvs.map Prod.fst).Nodup → (kvs'.map Prod.fst).Nodup →
        (∀ k : Key, kvs'.lookup k.name = kvs.lookup k.name) → json.read src' = json.read src) ∧
      ((∃ k : Key, 2 ≤ (kvs.map Prod.fst).count k.name) →
        (∃ m, json.read src = .error m) ∧
        ∀ (t : FileTree) (cwd : List String) (p : String), checkPath p = .ok () →
          t.read cwd p = .ok (Text.encode src) → ∃ m, json.load t cwd p = .error (.invalidJson m)) := by
  intro src kvs
  have htyped : FieldsTyped kvs := by
    intro k v h
    cases k <;> simp [kvs, Key.name] at h
    · exact ⟨.text "BL604", .text "BL604", h⟩
    · exact ⟨.count 2, .count 2 (by decide), h⟩
  have hspelled : Json.Spelled _ (.obj kvs) [] :=
    .obj .nil (.mk .space .nil (.str "BL604" .space))
      (.next .nil (.mk .space .nil
        (.num (.unsigned 2) .space (numberText_unsigned 2) (endsNumber_cons (by decide) _)))
        (.close .space))
  have htext : src.toList = [] ++ '{' :: ([' '] ++ (quoteString "chip_name").toList ++ [] ++
      ':' :: ([' '] ++ (quoteString "BL604").toList ++ ([] ++ ',' :: ([' '] ++
        (quoteString "jobs").toList ++ [] ++ ':' :: ([' '] ++ (Number.unsigned 2).render.toList ++
          ([' '] ++ '}' :: [])))))) := by
    decide
  have hsrc : ObjectText src (.obj kvs) := ⟨kvs, rfl, htyped, [], htext ▸ hspelled, Json.Blank.nil⟩
  exact ⟨json_laws, hsrc, htyped,
    settings_object_fills_defaults json ObjectText json_laws src kvs hsrc htyped⟩

end BoardSetup.Settings
