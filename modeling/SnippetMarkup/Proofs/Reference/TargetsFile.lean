import Mathlib
import SnippetMarkup.Reference.TargetsFile
import SnippetMarkup.Proofs.Encoding.Utf8
import SnippetMarkup.Proofs.Lookup
import SnippetMarkup.Proofs.Source.Library
import SnippetMarkup.Proofs.Yaml.Value

/-!
# What a target file gives

A target file gives its targets if it is the encoding of a YAML document that declares them.  A
document that is neither empty nor a mapping is refused, and so is an entry for targets that is
neither null nor a mapping, unless it counts as nothing.  Files that cannot be read and files that
their loader finds to be no YAML are refused in the same way.  Whatever else stops the loader, such
as bytes that are no encoding of a text, makes loading fail, and so do paths with a NUL.

The loader is any that decodes what it reads, and all of it before it gives a value.
-/

namespace SnippetMarkup

/-! ## Loaders -/

namespace Yaml.Loader

/-- What is relied on: the loader takes its bytes as a stream of text. -/
structure Decodes (loader : Loader) : Prop where
  /-- No document ends before the stream does. -/
  whole {bytes : Bytes} {reading : Reading} (gives : loader bytes = .ok reading) :
    ∃ text, Utf8.decodeStream bytes = .ok text
  /-- Bytes are undecodable only if the stream stops as well, be it at another place. -/
  stops {bytes : Bytes} {error : DecodeError} (fails : loader bytes = .error (.undecodable error)) :
    ∃ stopped, Utf8.decodeStream bytes = .error stopped

/-- Nothing goes wrong with a text but that it is no document. -/
def RefusesText (loader : Loader) : Prop :=
  ∀ text fault, loader (Utf8.encode text) = .error fault → ∃ reason, fault = .malformed reason

variable {loader : Loader} {bytes : Bytes}

theorem Decodes.exists_text {reading : Reading} (decodes : loader.Decodes)
    (gives : loader bytes = .ok reading) : ∃ text, bytes = Utf8.encode text := by
  obtain ⟨text, decoded⟩ := decodes.whole gives
  exact ⟨text, Utf8.decodeStream_eq_ok_iff.1 decoded⟩

theorem Decodes.ne_encode {error : DecodeError} (decodes : loader.Decodes)
    (fails : loader bytes = .error (.undecodable error)) (text : Text) :
    bytes ≠ Utf8.encode text := by
  intro same
  obtain ⟨stopped, stops⟩ := decodes.stops fails
  rw [Utf8.decodeStream_eq_ok_iff.2 same] at stops
  contradiction

end Yaml.Loader

namespace Targets

open Yaml (Scalar Value)

/-! ## Documents -/

section Documents

variable (reading : Yaml.Reading)

/-- A value is the mapping with these entries. -/
def IsMapping (value : Value) (entries : List (Scalar × Value)) : Prop :=
  ∃ id, value = .collection id ∧ reading.collections.lookup id = some (.map entries)

/-- The entries of a document that is empty or a mapping. -/
inductive Maps : List (Scalar × Value) → Prop
  | empty (root : reading.root = .scalar .null) : Maps []
  | mapping {entries : List (Scalar × Value)} (root : IsMapping reading reading.root entries) :
      Maps entries

/-- What a document says of targets, if it does: nothing, or what they are. -/
inductive Declares : List (Scalar × Value) → Prop
  | absent {document : List (Scalar × Value)} (maps : Maps reading document)
      (absent : document.lookup entryName = none) : Declares []
  | null {document : List (Scalar × Value)} (maps : Maps reading document)
      (null : document.lookup entryName = some (.scalar .null)) : Declares []
  | mapping {document entries : List (Scalar × Value)} {value : Value}
      (maps : Maps reading document) (given : document.lookup entryName = some value)
      (mapping : IsMapping reading value entries) : Declares entries

/-- The entry for targets is neither null nor a mapping, but counts as nothing, as a list without
items does. -/
def Overlooks : Prop :=
  ∃ document value, Maps reading document ∧ document.lookup entryName = some value ∧
    value ≠ .scalar .null ∧ (∀ entries, ¬IsMapping reading value entries) ∧
    value.isNothing reading.collections = true

/-- The entry for targets is not a mapping and does not count as nothing. -/
def Misdeclares : Prop :=
  ∃ document value, Maps reading document ∧ document.lookup entryName = some value ∧
    (∀ entries, ¬IsMapping reading value entries) ∧ value.isNothing reading.collections = false

end Documents

variable {reading : Yaml.Reading} {value : Value} {entries other : List (Scalar × Value)}

theorem IsMapping.unique (first : IsMapping reading value entries)
    (second : IsMapping reading value other) : entries = other := by
  obtain ⟨id, rfl, found⟩ := first
  obtain ⟨_, ⟨rfl⟩, foundToo⟩ := second
  rw [found] at foundToo
  cases foundToo
  rfl

theorem Maps.unique (first : Maps reading entries) (second : Maps reading other) :
    entries = other := by
  cases first with
  | empty root =>
    cases second with
    | empty => rfl
    | mapping mapping =>
      obtain ⟨id, same, -⟩ := mapping
      rw [root] at same
      contradiction
  | mapping mapping =>
    cases second with
    | empty root =>
      obtain ⟨id, same, -⟩ := mapping
      rw [root] at same
      contradiction
    | mapping mappingToo => exact mapping.unique mappingToo

/-- A document that declares targets does not overlook them. -/
theorem Overlooks.not_declares (overlooks : Overlooks reading) (entries : List (Scalar × Value)) :
    ¬Declares reading entries := by
  obtain ⟨document, value, maps, given, shown, unmapped, -⟩ := overlooks
  intro declares
  cases declares with
  | absent same absent =>
    rw [same.unique maps, given] at absent
    contradiction
  | null same null =>
    rw [same.unique maps, given] at null
    exact shown (Option.some.inj null)
  | mapping same givenToo mapping =>
    rw [same.unique maps, given] at givenToo
    cases givenToo
    exact unmapped entries mapping

/-- What the entry for targets gives, among the entries of a document. -/
def ofDocument (reading : Yaml.Reading) (document : List (Scalar × Value)) :
    Except TargetsFault (List (Scalar × Value)) :=
  match document.lookup entryName with
  | none => .ok []
  | some value =>
    match mapping? reading value with
    | some entries => .ok entries
    | none => .error .entryNotMapping

theorem ofReading_of_maps (maps : Maps reading entries) :
    ofReading reading = ofDocument reading entries := by
  cases maps with
  | empty root =>
    rw [ofReading, root]
    rfl
  | mapping mapping =>
    obtain ⟨id, root, found⟩ := mapping
    rw [ofReading, root]
    dsimp only
    rw [found]
    rfl

theorem ofReading_of_not_maps (unmapped : ∀ document, ¬Maps reading document) :
    ofReading reading = .error .notMapping := by
  rw [ofReading]
  cases root : reading.root with
  | scalar scalar =>
    cases scalar with
    | null => exact (unmapped [] (.empty root)).elim
    | _ => rfl
  | collection id =>
    dsimp only
    cases found : reading.collections.lookup id with
    | none => rfl
    | some contents =>
      cases contents with
      | map entries => exact (unmapped entries (.mapping ⟨id, root, found⟩)).elim
      | list | pairs | set => rfl

/-! ## Values -/

theorem mapping?_of_isNothing (nothing : value.isNothing reading.collections = true) :
    mapping? reading value = some [] := by
  simp only [mapping?, if_pos nothing]

theorem mapping?_of_isMapping (mapping : IsMapping reading value entries) :
    mapping? reading value = some entries := by
  obtain ⟨id, rfl, found⟩ := mapping
  rw [mapping?, Value.isNothing, found]
  cases entries <;> rfl

theorem mapping?_eq_none (shown : value.isNothing reading.collections = false)
    (unmapped : ∀ entries, ¬IsMapping reading value entries) : mapping? reading value = none := by
  simp only [mapping?, shown, Bool.false_eq_true, if_false]
  cases value with
  | scalar => rfl
  | collection id =>
    dsimp only
    cases found : reading.collections.lookup id with
    | none => rfl
    | some contents =>
      cases contents with
      | map entries => exact (unmapped entries ⟨id, rfl, found⟩).elim
      | list | pairs | set => rfl

theorem Declares.ofReading_eq (declares : Declares reading entries) :
    ofReading reading = .ok entries := by
  cases declares with
  | absent maps absent => rw [ofReading_of_maps maps, ofDocument, absent]
  | null maps null =>
    rw [ofReading_of_maps maps, ofDocument, null]
    rfl
  | mapping maps given mapping =>
    rw [ofReading_of_maps maps, ofDocument, given]
    simp only [mapping?_of_isMapping mapping]

theorem Overlooks.ofReading_eq (overlooks : Overlooks reading) : ofReading reading = .ok [] := by
  obtain ⟨document, value, maps, given, -, -, nothing⟩ := overlooks
  rw [ofReading_of_maps maps, ofDocument, given]
  simp only [mapping?_of_isNothing nothing]

theorem Misdeclares.ofReading_eq (misdeclares : Misdeclares reading) :
    ofReading reading = .error .entryNotMapping := by
  obtain ⟨document, value, maps, given, unmapped, shown⟩ := misdeclares
  rw [ofReading_of_maps maps, ofDocument, given]
  simp only [mapping?_eq_none shown unmapped]

/-- A mapping declares targets, or overlooks them, or gives something else for them. -/
theorem Maps.cases {document : List (Scalar × Value)} (maps : Maps reading document) :
    (∃ entries, Declares reading entries) ∨ Overlooks reading ∨ Misdeclares reading := by
  cases given : document.lookup entryName with
  | none => exact .inl ⟨[], .absent maps given⟩
  | some value =>
    by_cases mapped : ∃ entries, IsMapping reading value entries
    · obtain ⟨entries, mapping⟩ := mapped
      exact .inl ⟨entries, .mapping maps given mapping⟩
    have unmapped := not_exists.1 mapped
    -- Null counts as nothing too, but is a way to declare no targets.
    cases nothing : value.isNothing reading.collections with
    | false => exact .inr (.inr ⟨document, value, maps, given, unmapped, nothing⟩)
    | true =>
      by_cases null : value = .scalar .null
      · exact .inl ⟨[], .null maps (null ▸ given)⟩
      · exact .inr (.inl ⟨document, value, maps, given, null, unmapped, nothing⟩)

theorem document_cases (reading : Yaml.Reading) :
    ((∃ entries, Declares reading entries) ∨ Overlooks reading ∨ Misdeclares reading) ∨
      ∀ document, ¬Maps reading document := by
  by_cases mapped : ∃ document, Maps reading document
  · obtain ⟨document, maps⟩ := mapped
    exact .inl maps.cases
  · exact .inr (not_exists.1 mapped)

/-- A document gives the targets that it declares, and none if it overlooks them. -/
theorem ofReading_eq_ok_iff :
    ofReading reading = .ok entries ↔
      Declares reading entries ∨ Overlooks reading ∧ entries = [] := by
  constructor
  · intro taken
    rcases document_cases reading with (⟨other, declares⟩ | overlooks | misdeclares) | unmapped
    · obtain rfl := Except.ok.inj (declares.ofReading_eq.symm.trans taken)
      exact .inl declares
    · exact .inr ⟨overlooks, (Except.ok.inj (overlooks.ofReading_eq.symm.trans taken)).symm⟩
    · cases misdeclares.ofReading_eq.symm.trans taken
    · cases (ofReading_of_not_maps unmapped).symm.trans taken
  · rintro (declares | ⟨overlooks, rfl⟩)
    · exact declares.ofReading_eq
    · exact overlooks.ofReading_eq

theorem ofReading_eq_error_iff {fault : TargetsFault} :
    ofReading reading = .error fault ↔
      fault = .notMapping ∧ (∀ document, ¬Maps reading document) ∨
        fault = .entryNotMapping ∧ Misdeclares reading := by
  constructor
  · intro refused
    rcases document_cases reading with (⟨other, declares⟩ | overlooks | misdeclares) | unmapped
    · cases declares.ofReading_eq.symm.trans refused
    · cases overlooks.ofReading_eq.symm.trans refused
    · cases misdeclares.ofReading_eq.symm.trans refused
      exact .inr ⟨rfl, misdeclares⟩
    · cases (ofReading_of_not_maps unmapped).symm.trans refused
      exact .inl ⟨rfl, unmapped⟩
  · rintro (⟨rfl, unmapped⟩ | ⟨rfl, misdeclares⟩)
    · exact ofReading_of_not_maps unmapped
    · exact misdeclares.ofReading_eq

/-! ## Texts of targets -/

/-- The value that counts for a name: that of the last of the keys that read so. -/
def last? (reading : Yaml.Reading) (entries : List (Scalar × Value)) (name : Text) : Option Text :=
  (entries.reverse.find? fun (key, _) => key.toText? == some name).bind fun (_, value) =>
    value.toText? reading.collections

/-- A key or a value of these entries shows a number with too many digits. -/
def Overlong (reading : Yaml.Reading) (entries : List (Scalar × Value)) : Prop :=
  ∃ entry ∈ entries, entry.1.IsLong ∨ entry.2.ShowsLong reading.collections []

theorem ofEntries?_append_singleton (reading : Yaml.Reading) (entries : List (Scalar × Value))
    (key : Scalar) (value : Value) :
    ofEntries? reading (entries ++ [(key, value)]) = (do
      let texts ← ofEntries? reading entries
      return texts.put (← key.toText?) (← value.toText? reading.collections)) := by
  rw [ofEntries?, List.foldlM_append]
  simp [ofEntries?]

theorem of_ofEntries?_append_singleton {key : Scalar} {texts : TextTable}
    (gives : ofEntries? reading (entries ++ [(key, value)]) = some texts) :
    ∃ before shown reference, ofEntries? reading entries = some before ∧
      key.toText? = some shown ∧ value.toText? reading.collections = some reference ∧
      texts = before.put shown reference := by
  rw [ofEntries?_append_singleton] at gives
  simp only [Option.bind_eq_bind, Option.bind_eq_some_iff, Option.pure_def,
    Option.some.injEq] at gives
  obtain ⟨before, earlier, shown, reads, reference, refers, rfl⟩ := gives
  exact ⟨before, shown, reference, earlier, reads, refers, rfl⟩

theorem last?_append_singleton {key : Scalar} {shown : Text} (reads : key.toText? = some shown)
    (name : Text) :
    last? reading (entries ++ [(key, value)]) name =
      if name = shown then value.toText? reading.collections else last? reading entries name := by
  rw [last?, List.reverse_append, List.reverse_singleton, List.singleton_append, List.find?_cons]
  by_cases named : name = shown
  · simp [reads, named]
  · simp [reads, named, beq_false_of_ne (Ne.symm named), last?]

/-- Of several keys that read the same, the last one counts. -/
theorem lookup_of_ofEntries? {texts : TextTable} (gives : ofEntries? reading entries = some texts)
    (name : Text) : texts.lookup name = last? reading entries name := by
  induction entries using List.reverseRecOn generalizing texts with
  | nil =>
    obtain rfl := Option.some.inj gives
    rfl
  | append_singleton entries entry ih =>
    obtain ⟨key, value⟩ := entry
    obtain ⟨before, shown, reference, earlier, reads, refers, rfl⟩ :=
      of_ofEntries?_append_singleton gives
    rw [TextTable.lookup_put, ih earlier, last?_append_singleton reads, refers]

theorem nodup_of_ofEntries? {texts : TextTable} (gives : ofEntries? reading entries = some texts) :
    (texts.map (·.1)).Nodup := by
  induction entries using List.reverseRecOn generalizing texts with
  | nil =>
    obtain rfl := Option.some.inj gives
    exact List.nodup_nil
  | append_singleton entries entry ih =>
    obtain ⟨key, value⟩ := entry
    obtain ⟨before, shown, reference, earlier, -, -, rfl⟩ := of_ofEntries?_append_singleton gives
    exact TextTable.nodup_put (ih earlier) _ _

/-- Entries give texts unless a number among them has too many digits. -/
theorem ofEntries?_eq_none_iff : ofEntries? reading entries = none ↔ Overlong reading entries := by
  induction entries using List.reverseRecOn with
  | nil => simp [ofEntries?, Overlong]
  | append_singleton entries entry ih =>
    obtain ⟨key, value⟩ := entry
    have more : Overlong reading (entries ++ [(key, value)]) ↔
        Overlong reading entries ∨ key.IsLong ∨ value.ShowsLong reading.collections [] := by
      simp [Overlong, or_and_right, exists_or]
    rw [ofEntries?_append_singleton, more, ← ih]
    cases ofEntries? reading entries with
    | none => simp
    | some texts =>
      rw [← Scalar.toText?_eq_none_iff, ← Value.toText?_eq_none_iff]
      simpa using Yaml.bind_eq_none_iff texts.put

/-! ## Files -/

section Files

variable (loader : Yaml.Loader) (tree : FileTree) (path : Path)

/-- The file at a path is the encoding of a YAML document with this value. -/
def Holds (reading : Yaml.Reading) : Prop :=
  ∃ text, tree.read path = .ok (Utf8.encode text) ∧ loader (Utf8.encode text) = .ok reading

/-- Why a file gives no targets, as far as that is told. -/
inductive Faulty : TargetsFault → Prop
  | unreadable {error : FileError} (refused : tree.read path = .error error)
      (sound : error.fault ≠ .nul) : Faulty (.unreadable error)
  | malformed {bytes : Bytes} {reason : Text} (contents : tree.read path = .ok bytes)
      (malformed : loader bytes = .error (.malformed reason)) : Faulty (.malformed reason)
  | notMapping {reading : Yaml.Reading} (holds : Holds loader tree path reading)
      (unmapped : ∀ document, ¬Maps reading document) : Faulty .notMapping
  | entryNotMapping {reading : Yaml.Reading} (holds : Holds loader tree path reading)
      (misdeclares : Misdeclares reading) : Faulty .entryNotMapping

/-- What makes loading fail instead. -/
inductive Escapes : Failure → Prop
  | nul {error : FileError} (refused : tree.read path = .error error) (nul : error.fault = .nul) :
      Escapes (.file error)
  | undecodable {bytes : Bytes} {error : DecodeError} (contents : tree.read path = .ok bytes)
      (undecodable : ∀ text, bytes ≠ Utf8.encode text)
      (fails : loader bytes = .error (.undecodable error)) : Escapes (.yaml (.undecodable error))
  | other {bytes : Bytes} {kind message : Text} (contents : tree.read path = .ok bytes)
      (fails : loader bytes = .error (.other kind message)) : Escapes (.yaml (.other kind message))
  | longNumber {reading : Yaml.Reading} {entries : List (Scalar × Value)}
      (holds : Holds loader tree path reading) (declares : Declares reading entries)
      (long : Overlong reading entries) : Escapes .longNumber

end Files

variable {loader : Yaml.Loader} {tree : FileTree} {path : Path} {bytes : Bytes}

theorem readFile_of_contents (contents : tree.read path = .ok bytes) :
    readFile loader tree path = (loader bytes).mapError (loadFailure path) := by
  rw [readFile, contents]

theorem readFile_of_refused {error : FileError} (refused : tree.read path = .error error) :
    readFile loader tree path =
      .error (if error.fault = .nul then .file error else .targets path (.unreadable error)) := by
  rw [readFile, refused]

theorem readFile_of_holds (holds : Holds loader tree path reading) :
    readFile loader tree path = .ok reading := by
  obtain ⟨text, contents, gives⟩ := holds
  rw [readFile_of_contents contents, gives]
  rfl

/-- A file gives a value exactly if it is the encoding of a document with it. -/
theorem readFile_eq_ok_iff (decodes : loader.Decodes) :
    readFile loader tree path = .ok reading ↔ Holds loader tree path reading := by
  refine ⟨fun reads => ?_, readFile_of_holds⟩
  cases contents : tree.read path with
  | error error =>
    rw [readFile_of_refused contents] at reads
    contradiction
  | ok bytes =>
    rw [readFile_of_contents contents] at reads
    cases gives : loader bytes with
    | error fault =>
      rw [gives] at reads
      contradiction
    | ok given =>
      rw [gives] at reads
      obtain rfl : given = reading := Except.ok.inj reads
      obtain ⟨text, rfl⟩ := decodes.exists_text gives
      exact ⟨text, contents, gives⟩

theorem Escapes.ne_targets {failure : Failure} (escapes : Escapes loader tree path failure)
    (place : Path) (fault : TargetsFault) : failure ≠ .targets place fault := by
  cases escapes <;> simp

/-- If nothing goes wrong with texts, then only a NUL, bytes that are no text and numbers that are
too long escape. -/
theorem Escapes.of_refusesText {failure : Failure} (escapes : Escapes loader tree path failure)
    (refuses : loader.RefusesText) :
    (∃ error, tree.read path = .error error ∧ error.fault = .nul) ∨
      (∃ bytes, tree.read path = .ok bytes ∧ ∀ text, bytes ≠ Utf8.encode text) ∨
      failure = .longNumber := by
  cases escapes with
  | nul refused nul => exact .inl ⟨_, refused, nul⟩
  | undecodable contents undecodable => exact .inr (.inl ⟨_, contents, undecodable⟩)
  | other contents fails =>
    refine .inr (.inl ⟨_, contents, fun text same => ?_⟩)
    obtain ⟨reason, other⟩ := refuses text _ (same ▸ fails)
    contradiction
  | longNumber => exact .inr (.inr rfl)

theorem of_readFile_eq_error {failure : Failure} (decodes : loader.Decodes)
    (fails : readFile loader tree path = .error failure) :
    (∃ fault, Faulty loader tree path fault ∧ failure = .targets path fault) ∨
      Escapes loader tree path failure := by
  cases contents : tree.read path with
  | error error =>
    rw [readFile_of_refused contents] at fails
    split at fails
    · next nul =>
      cases fails
      exact .inr (.nul contents nul)
    · next sound =>
      cases fails
      exact .inl ⟨_, .unreadable contents sound, rfl⟩
  | ok bytes =>
    rw [readFile_of_contents contents] at fails
    cases stops : loader bytes with
    | ok reading =>
      rw [stops] at fails
      contradiction
    | error fault =>
      rw [stops] at fails
      obtain rfl : loadFailure path fault = failure := Except.error.inj fails
      cases fault with
      | malformed reason => exact .inl ⟨_, .malformed contents stops, rfl⟩
      | undecodable error =>
        exact .inr (.undecodable contents (decodes.ne_encode stops) stops)
      | other kind message => exact .inr (.other contents stops)

variable {memberFallback : Bool}

/-- The targets with these texts, if there are any. -/
def ofTexts (memberFallback : Bool) : Option TextTable → Except Failure Targets
  | none => .error .longNumber
  | some texts => .ok ⟨texts, memberFallback⟩

theorem load_result (loader : Yaml.Loader) (tree : FileTree) (path : Path)
    (memberFallback : Bool) :
    (load loader tree path memberFallback).result =
      (readFile loader tree path).bind fun reading =>
        ((ofReading reading).mapError (.targets path)).bind fun entries =>
          ofTexts memberFallback (ofEntries? reading entries) := by
  rw [load]
  cases readFile loader tree path with
  | error failure => rfl
  | ok reading =>
    cases taken : ofReading reading with
    | error fault => simp [taken, Reported.ofExcept, Except.mapError, Except.bind]
    | ok entries =>
      cases shown : ofEntries? reading entries <;> simp [taken, shown, ofTexts, Reported.ofExcept,
        Reported.note, Reported.report, Reported.fail, Except.mapError, Except.bind]

theorem load_of_holds (holds : Holds loader tree path reading) :
    (load loader tree path memberFallback).result =
      ((ofReading reading).mapError (.targets path)).bind fun entries =>
        ofTexts memberFallback (ofEntries? reading entries) := by
  rw [load_result, readFile_of_holds holds]
  rfl

/-- A document with targets gives them, if they can be shown. -/
theorem load_of_declares (holds : Holds loader tree path reading)
    (declares : Declares reading entries ∨ Overlooks reading ∧ entries = []) :
    (load loader tree path memberFallback).result =
      ofTexts memberFallback (ofEntries? reading entries) := by
  rw [load_of_holds holds, ofReading_eq_ok_iff.2 declares]
  rfl

/-- Loading goes through if the file holds a document that declares targets which can be shown, or
overlooks them. -/
theorem load_eq_ok_iff {targets : Targets} (decodes : loader.Decodes) :
    (load loader tree path memberFallback).result = .ok targets ↔
      ∃ reading entries texts, Holds loader tree path reading ∧
        (Declares reading entries ∨ Overlooks reading ∧ entries = []) ∧
        ofEntries? reading entries = some texts ∧ targets = ⟨texts, memberFallback⟩ := by
  constructor
  · intro loads
    cases reads : readFile loader tree path with
    | error failure =>
      rw [load_result, reads] at loads
      contradiction
    | ok reading =>
      have holds := (readFile_eq_ok_iff decodes).1 reads
      cases taken : ofReading reading with
      | error fault =>
        rw [load_of_holds holds, taken] at loads
        contradiction
      | ok entries =>
        have declares := ofReading_eq_ok_iff.1 taken
        rw [load_of_declares holds declares] at loads
        cases shown : ofEntries? reading entries with
        | none =>
          rw [shown] at loads
          contradiction
        | some texts =>
          rw [shown] at loads
          exact ⟨reading, entries, texts, holds, declares, shown, (Except.ok.inj loads).symm⟩
  · rintro ⟨reading, entries, texts, holds, declares, shown, rfl⟩
    rw [load_of_declares holds declares, shown]
    rfl

theorem load_of_holds_refused {fault : TargetsFault} (holds : Holds loader tree path reading)
    (refused : ofReading reading = .error fault) :
    (load loader tree path memberFallback).result = .error (.targets path fault) := by
  rw [load_of_holds holds, refused]
  rfl

theorem Faulty.load_eq {fault : TargetsFault} (faulty : Faulty loader tree path fault) :
    (load loader tree path memberFallback).result = .error (.targets path fault) := by
  cases faulty with
  | unreadable refused sound =>
    rw [load_result, readFile_of_refused refused, if_neg sound]
    rfl
  | malformed contents malformed =>
    rw [load_result, readFile_of_contents contents, malformed]
    rfl
  | notMapping holds unmapped =>
    exact load_of_holds_refused holds (ofReading_eq_error_iff.2 (.inl ⟨rfl, unmapped⟩))
  | entryNotMapping holds misdeclares =>
    exact load_of_holds_refused holds (ofReading_eq_error_iff.2 (.inr ⟨rfl, misdeclares⟩))

theorem Escapes.load_eq {failure : Failure} (escapes : Escapes loader tree path failure) :
    (load loader tree path memberFallback).result = .error failure := by
  cases escapes with
  | nul refused nul =>
    rw [load_result, readFile_of_refused refused, if_pos nul]
    rfl
  | undecodable contents _ fails | other contents fails =>
    rw [load_result, readFile_of_contents contents, fails]
    rfl
  | longNumber holds declares long =>
    rw [load_of_declares holds (.inl declares), ofEntries?_eq_none_iff.2 long]
    rfl

/-- Loading does not go through if the file has a fault, or if something makes it fail. -/
theorem load_eq_error_iff {failure : Failure} (decodes : loader.Decodes) :
    (load loader tree path memberFallback).result = .error failure ↔
      (∃ fault, Faulty loader tree path fault ∧ failure = .targets path fault) ∨
        Escapes loader tree path failure := by
  constructor
  · intro fails
    cases reads : readFile loader tree path with
    | error error =>
      rw [load_result, reads] at fails
      cases fails
      exact of_readFile_eq_error decodes reads
    | ok reading =>
      have holds := (readFile_eq_ok_iff decodes).1 reads
      cases taken : ofReading reading with
      | ok entries =>
        rw [load_of_declares holds (ofReading_eq_ok_iff.1 taken)] at fails
        cases shown : ofEntries? reading entries with
        | some texts =>
          rw [shown] at fails
          contradiction
        | none =>
          rw [shown] at fails
          obtain rfl := Except.error.inj fails
          -- A document that overlooks its targets has no entries that could be too long.
          rcases ofReading_eq_ok_iff.1 taken with declares | ⟨-, rfl⟩
          · exact .inr (.longNumber holds declares (ofEntries?_eq_none_iff.1 shown))
          · contradiction
      | error fault =>
        rw [load_of_holds holds, taken] at fails
        refine .inl ⟨fault, ?_, (Except.error.inj fails).symm⟩
        rcases ofReading_eq_error_iff.1 taken with ⟨rfl, unmapped⟩ | ⟨rfl, misdeclares⟩
        · exact .notMapping holds unmapped
        · exact .entryNotMapping holds misdeclares
  · rintro (⟨fault, faulty, rfl⟩ | escapes)
    · exact faulty.load_eq
    · exact escapes.load_eq

end Targets

end SnippetMarkup
