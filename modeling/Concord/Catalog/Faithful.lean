import Concord.Catalog.Revisions

/-!
# Whether a revision describes its documents

A row that is made describes the documents it was made of, whatever was left in its directory by
an import that raised (`materialize_step`). A row that is found was made of documents with the
same first digits, and describes those; so the imports of a run must be told apart by these
digits (`imports_faithful`).
-/

namespace Concord.Catalog

open Concord.Python Concord.Base

/-! ## The same documents -/

def SameFiles {α : Type} (d d' : Dict Text α) : Prop := ∀ name, d.get? name = d'.get? name

theorem sortedItems_eq {α : Type} {d d' : Dict Text α} (h : SameFiles d d') :
    sortedItems d = sortedItems d' := by
  have hmem : ∀ p, p ∈ d.items ↔ p ∈ d'.items := by
    rintro ⟨name, value⟩
    rw [Dict.mem_items_iff, Dict.mem_items_iff, h name]
  have hperm : d.items.Perm d'.items :=
    (List.perm_ext_iff_of_nodup d.nodup.of_map d'.nodup.of_map).mpr hmem
  have hsorted : (sortedItems d).Perm (sortedItems d') :=
    ((List.perm_insertionSort _ d.items).trans hperm).trans (List.perm_insertionSort _ d'.items).symm
  refine hsorted.eq_of_pairwise ?_ (List.pairwise_insertionSort _ _)
    (List.pairwise_insertionSort _ _)
  rintro ⟨name, value⟩ ⟨name', value'⟩ ha hb hle hle'
  obtain rfl : name = name' := Json.keyLe_antisymm hle hle'
  have hvalue := Dict.mem_items_iff.mp ((List.perm_insertionSort _ d.items).mem_iff.mp ha)
  have hvalue' := Dict.mem_items_iff.mp ((List.perm_insertionSort _ d'.items).mem_iff.mp hb)
  rw [h name, hvalue'] at hvalue
  rw [Option.some.inj hvalue]

theorem primaryBody_eq {docs docs' : Documents} (h : SameFiles docs.files docs'.files) :
    primaryBody docs = primaryBody docs' := by
  unfold primaryBody
  rw [h catalogFile, sortedItems_eq h]

theorem generateManifest_eq {d d' : Dir} (h : SameFiles d d') :
    generateManifest d = generateManifest d' := by
  have hsorted := sortedItems_eq h
  unfold sortedItems at hsorted
  unfold generateManifest
  rw [hsorted]

theorem get?_generateManifest (d : Dir) (name : Text) :
    (generateManifest d).get? name = (d.get? name).map sha256Hex := by
  unfold generateManifest
  rw [Dict.get?_ofPairs]
  have hmem : ∀ f, f ∈ (d.items.insertionSort fun a b => Json.keyLe a.1 b.1) ↔
      d.get? f.1 = some f.2 := fun f =>
    (List.perm_insertionSort _ d.items).mem_iff.trans Dict.mem_items_iff
  cases hfind : (((d.items.insertionSort fun a b => Json.keyLe a.1 b.1).map fun f =>
      (f.1, sha256Hex f.2)).reverse.find? fun p => p.1 = name) with
  | none =>
    cases hget : d.get? name with
    | none => rfl
    | some body =>
      have habsent := List.find?_eq_none.mp hfind (name, sha256Hex body)
        (List.mem_reverse.mpr (List.mem_map.mpr ⟨(name, body), (hmem _).mpr hget, rfl⟩))
      exact absurd (decide_eq_true rfl) habsent
  | some p =>
    obtain ⟨f, hf, rfl⟩ := List.mem_map.mp (List.mem_reverse.mp (List.mem_of_find?_eq_some hfind))
    have hname : f.1 = name := by simpa using List.find?_some hfind
    rw [← hname, (hmem f).mp hf]
    rfl

theorem loadOscalCatalog_congr (env : Interpreter) {d d' : Dir} (h : SameFiles d d')
    (files : Dict Text Text) : loadOscalCatalog env d files = loadOscalCatalog env d' files := by
  have hget : d.get? = d'.get? := funext h
  have hverify : verify d files = verify d' files := by
    unfold verify
    rw [hget]
  have hread : ∀ name, readJson env d name = readJson env d' name := by
    intro name
    unfold readJson
    rw [hget]
  unfold loadOscalCatalog
  rw [hverify]
  simp only [hread]

/-- The catalog is parsed, and the documents are loaded. -/
def Loads (env : Interpreter) (docs : Documents) : Prop :=
  (∃ parsed, parseOscalCatalog env (primaryBody docs) = .ok parsed) ∧
    loadOscalCatalog env docs.files (generateManifest docs.files) = .ok ()

/-- The first eight digits of the hash of the catalog document. -/
def firstDigits (docs : Documents) : Text := (sha256Hex (primaryBody docs)).take 8

/-- The row is named after the documents and has their hashes, if they load; if they do not, it
is rejected and has none. -/
structure Describes (env : Interpreter) (docs : Documents) (row : CatalogRevision) : Prop where
  revision : row.revision = "sha-".toList ++ firstDigits docs
  content : row.contentSha256 = sha256Hex (primaryBody docs)
  available : Loads env docs → row.status = .available ∧
    ∀ name, row.files.get? name = (docs.files.get? name).map sha256Hex
  rejected : ¬ Loads env docs → row.status = .rejected ∧ ∀ name, row.files.get? name = none

theorem Loads.same {env : Interpreter} {docs docs' : Documents}
    (h : SameFiles docs.files docs'.files) (hloads : Loads env docs) : Loads env docs' := by
  unfold Loads at hloads ⊢
  rwa [primaryBody_eq h, loadOscalCatalog_congr env h, generateManifest_eq h] at hloads

theorem SameFiles.symm {α : Type} {d d' : Dict Text α} (h : SameFiles d d') : SameFiles d' d :=
  fun name => (h name).symm

theorem Describes.same {env : Interpreter} {docs docs' : Documents} {row : CatalogRevision}
    (hrow : Describes env docs row) (h : SameFiles docs.files docs'.files) :
    Describes env docs' row := by
  refine ⟨?_, ?_, fun hloads => ?_, fun hloads => hrow.rejected fun hold => hloads (hold.same h)⟩
  · rw [hrow.revision, firstDigits, firstDigits, primaryBody_eq h]
  · rw [hrow.content, primaryBody_eq h]
  · obtain ⟨hstatus, hfiles⟩ := hrow.available (hloads.same h.symm)
    exact ⟨hstatus, fun name => by rw [hfiles name, h name]⟩

/-! ## What is written -/

theorem sameFiles_writeAll {dir : Dir} {docs : Documents}
    (h : ∀ name body, dir.get? name = some body → docs.files.get? name = some body) :
    SameFiles (writeAll dir docs) docs.files := by
  intro name
  unfold writeAll
  rw [Dict.get?_foldl_set]
  cases hfind : docs.files.items.reverse.find? fun p => p.1 = name with
  | some p =>
    have hname : p.1 = name := by simpa using List.find?_some hfind
    have hmem := Dict.mem_items_iff.mp (List.mem_reverse.mp (List.mem_of_find?_eq_some hfind))
    rw [← hname, hmem]
    rfl
  | none =>
    rw [Option.map_none, Option.none_or]
    cases hget : docs.files.get? name with
    | some body =>
      have habsent := List.find?_eq_none.mp hfind (name, body)
        (List.mem_reverse.mpr (Dict.mem_items_iff.mpr hget))
      exact absurd (decide_eq_true rfl) habsent
    | none =>
      cases hdir : dir.get? name with
      | none => rfl
      | some body =>
        rw [h name body hdir] at hget
        cases hget

theorem get?_removeDir (disk : Dict Text Dir) (revision label : Text) {dir : Dir}
    (h : (removeDir disk revision).get? label = some dir) : disk.get? label = some dir := by
  have hmem := Dict.mem_items_iff.mpr h
  exact Dict.mem_items_iff.mp (List.mem_filter.mp hmem).1

/-! ## One import -/

/-- Every row that is named by digits describes documents that were imported, and every such
directory has files of documents with its digits. -/
structure Made (env : Interpreter) (seen : List Documents) (store : Store) : Prop where
  rows : ∀ r ∈ store.rows, "sha-".toList <+: r.revision → ∃ docs ∈ seen, Describes env docs r
  disk : ∀ revision dir, store.disk.get? revision = some dir → "sha-".toList <+: revision →
    ∃ docs ∈ seen, revision = "sha-".toList ++ firstDigits docs ∧
      ∀ name body, dir.get? name = some body → docs.files.get? name = some body

/-- No other documents with the same first digits were seen. -/
def Apart (seen : List Documents) (docs : Documents) : Prop :=
  ∀ docs' ∈ seen, firstDigits docs' = firstDigits docs → SameFiles docs'.files docs.files

section Step

variable {env : Interpreter} {source : CatalogSource} {seen : List Documents} {store : Store}
  {docs : Documents} {row : CatalogRevision} {by_ : Option Text}

theorem Made.weaken (h : Made env seen store) (docs : Documents) :
    Made env (docs :: seen) store := by
  refine ⟨fun r hr hsha => ?_, fun revision dir hdir hsha => ?_⟩
  · obtain ⟨docs', hseen, hrow⟩ := h.rows r hr hsha
    exact ⟨docs', List.mem_cons_of_mem _ hseen, hrow⟩
  · obtain ⟨docs', hseen, hfiles⟩ := h.disk revision dir hdir hsha
    exact ⟨docs', List.mem_cons_of_mem _ hseen, hfiles⟩

theorem Made.add (h : Made env seen store) (hseen : docs ∈ seen) (hrow : Describes env docs row) :
    Made env seen (store.add row).1 ∧
      ∀ row', (store.add row).2 = .ok row' → Describes env docs row' := by
  unfold Store.add
  split
  · refine ⟨⟨fun r hr hsha => ?_, h.disk⟩, fun row' hrow' => ?_⟩
    · obtain hold | hnew := List.mem_append.mp hr
      · exact h.rows r hold hsha
      · obtain rfl := List.mem_singleton.mp hnew
        exact ⟨docs, hseen, hrow⟩
    · rwa [← Except.ok.inj hrow']
  · exact ⟨h, fun row' hrow' => nomatch hrow'⟩

theorem Made.removeDir (h : Made env seen store) (revision : Text) :
    Made env seen { store with disk := removeDir store.disk revision } :=
  ⟨h.rows, fun label dir hdir => h.disk label dir (get?_removeDir _ _ _ hdir)⟩

theorem Made.setDir (h : Made env seen store) (hseen : docs ∈ seen) {dir : Dir}
    (hdir : SameFiles dir docs.files) : Made env seen
      { store with disk := store.disk.set ("sha-".toList ++ firstDigits docs) dir } := by
  refine ⟨h.rows, fun revision d hd hsha => ?_⟩
  rw [Dict.get?_set] at hd
  split at hd
  · rename_i hrevision
    obtain rfl := Option.some.inj hd
    exact ⟨docs, hseen, hrevision.symm, fun name body hbody => (hdir name).symm.trans hbody⟩
  · exact h.disk revision d hd hsha

theorem Made.left (h : Made env seen store) (hapart : Apart seen docs) (name : Text)
    (body : Bytes) (hleft : (store.dir ("sha-".toList ++ firstDigits docs)).get? name = some body) :
    docs.files.get? name = some body := by
  unfold Store.dir at hleft
  cases hdir : store.disk.get? ("sha-".toList ++ firstDigits docs) with
  | none =>
    rw [hdir] at hleft
    cases hleft
  | some dir =>
    rw [hdir] at hleft
    obtain ⟨docs', hseen, hdigits, hfiles⟩ := h.disk _ dir hdir (List.prefix_append _ _)
    have hsame := hapart docs' hseen (List.append_cancel_left hdigits).symm
    rw [← hsame name]
    exact hfiles name body hleft

theorem describes_reject (hloads : ¬ Loads env docs) (parsed : Json × Dict Text Text)
    (exc : PyError) :
    Describes env docs ((newRow source docs none by_ parsed).reject env exc) :=
  ⟨rfl, rfl, fun h => absurd h hloads, fun _ => ⟨rfl, fun _ => rfl⟩⟩

/-- **The documents of a new revision**, written and loaded. -/
theorem capture_step (h : Made env seen store) (hseen : docs ∈ seen) (hapart : Apart seen docs)
    {parsed : Json × Dict Text Text}
    (hparsed : parseOscalCatalog env (primaryBody docs) = .ok parsed) :
    Made env seen (capture env source store docs (newRow source docs none by_ parsed)).1 ∧
      ∀ row, (capture env source store docs (newRow source docs none by_ parsed)).2 = .ok row →
        Describes env docs row := by
  have hdir : SameFiles (writeAll (store.dir ("sha-".toList ++ firstDigits docs)) docs)
      docs.files := sameFiles_writeAll (h.left hapart)
  unfold capture
  rw [show (newRow source docs none by_ parsed).revision = "sha-".toList ++ firstDigits docs from rfl]
  generalize writeAll (store.dir ("sha-".toList ++ firstDigits docs)) docs = dir at hdir
  have hload : loadOscalCatalog env dir (generateManifest dir) =
      loadOscalCatalog env docs.files (generateManifest docs.files) := by
    rw [loadOscalCatalog_congr env hdir, generateManifest_eq hdir]
  have hwritten := h.setDir hseen hdir
  dsimp only
  split
  · rename_i hok
    refine hwritten.add hseen ⟨rfl, rfl, fun _ => ⟨rfl, fun name => ?_⟩, fun hloads => ?_⟩
    · show (generateManifest dir).get? name = _
      rw [get?_generateManifest, hdir name]
    · exact absurd ⟨⟨parsed, hparsed⟩, hload.symm.trans hok⟩ hloads
  · exact ⟨hwritten, fun row hrow => nomatch hrow⟩
  · rename_i exc hne hexc
    refine (h.removeDir _).add hseen (describes_reject (fun hloads => ?_) parsed exc)
    rw [hload, hloads.2] at hexc
    cases hexc

/-- **One call**: what is made describes the documents, and so does what is found. -/
theorem materialize_step (h : Made env seen store) (hapart : Apart seen docs) :
    Made env (docs :: seen) (materializeRevision env source store docs none by_).1 ∧
      ∀ row, (materializeRevision env source store docs none by_).2 = .ok row →
        Describes env docs row := by
  have hweak := h.weaken docs
  have hseen : docs ∈ docs :: seen := List.mem_cons_self
  have hapart' : Apart (docs :: seen) docs := by
    intro docs' hdocs' hdigits
    obtain rfl | hdocs' := List.mem_cons.mp hdocs'
    · exact fun _ => rfl
    · exact hapart docs' hdocs' hdigits
  unfold materializeRevision
  dsimp only
  split
  · rename_i prior hprior
    refine ⟨hweak, fun row hrow => ?_⟩
    obtain rfl := Except.ok.inj hrow
    have hname : prior.revision = "sha-".toList ++ firstDigits docs := by
      unfold Store.existing at hprior
      have hfound := List.find?_some hprior
      exact of_decide_eq_true hfound
    obtain ⟨docs', hdocs', hdescribes⟩ := h.rows prior (List.mem_of_find?_eq_some hprior)
      (hname ▸ List.prefix_append _ _)
    have hdigits := List.append_cancel_left (hdescribes.revision.symm.trans hname)
    exact hdescribes.same (hapart docs' hdocs' hdigits)
  · split
    · rename_i parsed hparsed
      exact capture_step hweak hseen hapart' hparsed
    · exact ⟨hweak, fun row hrow => nomatch hrow⟩
    · rename_i exc hne hexc
      refine (hweak.removeDir _).add hseen (describes_reject (fun hloads => ?_) _ exc)
      obtain ⟨parsed, hparsed⟩ := hloads.1
      rw [hexc] at hparsed
      cases hparsed

theorem describes_addNotes (h : Describes env docs row) (notes : Text) :
    Describes env docs (addNotes row notes) :=
  ⟨h.revision, h.content, h.available, h.rejected⟩

theorem import_step (h : Made env seen store) (hapart : Apart seen docs) (notes : Option Text) :
    Made env (docs :: seen) (importDocuments env source store docs by_ notes).1 ∧
      ∀ row, (importDocuments env source store docs by_ notes).2 = .ok row →
        Describes env docs row := by
  have hstep : Made env (docs :: seen) (materializeRevision env source store docs none by_).1 ∧
      ∀ row, (materializeRevision env source store docs none by_).2 = .ok row →
        Describes env docs row := materialize_step h hapart
  unfold importDocuments
  generalize materializeRevision env source store docs none by_ = made at hstep
  obtain ⟨out, result⟩ := made
  obtain ⟨hmade, hrow⟩ := hstep
  cases result with
  | error exc => exact ⟨hmade, hrow⟩
  | ok row =>
    have hdescribes := hrow row rfl
    cases orElse notes none with
    | none => exact ⟨hmade, hrow⟩
    | some notes =>
      dsimp only
      split
      · refine ⟨⟨fun r hr hsha => ?_, hmade.disk⟩, fun row' hrow' => ?_⟩
        · obtain ⟨old, hold, rfl⟩ := List.mem_map.mp hr
          by_cases hsame : old.revision = row.revision
          · rw [if_pos hsame]
            exact ⟨docs, List.mem_cons_self, describes_addNotes hdescribes notes⟩
          · rw [if_neg hsame] at hsha ⊢
            exact hmade.rows old hold hsha
        · rw [← Except.ok.inj hrow']
          exact describes_addNotes hdescribes notes
      · exact ⟨⟨(h.weaken docs).rows, hmade.disk⟩, fun row' hrow' => nomatch hrow'⟩

end Step

/-! ## A run -/

def documentsOf (calls : List Import) : List Documents :=
  calls.filterMap fun call => (Documents.ofPayload call.payload).toOption

theorem documentsOf_cons (call : Import) (calls : List Import) :
    documentsOf (call :: calls) =
      (Documents.ofPayload call.payload).toOption.toList ++ documentsOf calls := by
  unfold documentsOf
  rw [List.filterMap_cons]
  cases (Documents.ofPayload call.payload).toOption <;> rfl

/-- **A run**: each answer describes the documents it was given. -/
theorem runImports_describes {env : Interpreter} (source : CatalogSource) {store : Store}
    {seen : List Documents} (h : Made env seen store) (calls : List Import)
    (hapart : ∀ docs ∈ documentsOf calls, Apart (seen ++ documentsOf calls) docs) :
    ∀ c ∈ runImports env source store calls,
      c.1 ∈ documentsOf calls ∧ Describes env c.1 c.2 := by
  induction calls generalizing store seen with
  | nil => exact fun c hc => nomatch hc
  | cons call calls ih =>
    rw [documentsOf_cons] at hapart ⊢
    unfold runImports
    cases hdocs : Documents.ofPayload call.payload with
    | error exc =>
      rw [hdocs] at hapart
      exact ih h hapart
    | ok docs =>
      rw [hdocs] at hapart
      -- the rest of the run is apart from this set too
      have hrest : ∀ docs' ∈ documentsOf calls,
          Apart ((docs :: seen) ++ documentsOf calls) docs' := by
        intro docs' hdocs' docs'' hdocs''
        refine hapart docs' (List.mem_append_right _ hdocs') docs'' ?_
        rw [List.cons_append, List.mem_cons, List.mem_append] at hdocs''
        show docs'' ∈ seen ++ ([docs] ++ documentsOf calls)
        rw [List.mem_append, List.mem_append, List.mem_singleton]
        tauto
      have hfirst : Apart seen docs := fun docs' hdocs' =>
        hapart docs (List.mem_append_left _ (List.mem_singleton_self docs)) docs'
          (List.mem_append_left _ hdocs')
      have hstep : Made env (docs :: seen)
          (importDocuments env source store docs call.retrievedBy call.notes).1 ∧
          ∀ row, (importDocuments env source store docs call.retrievedBy call.notes).2 = .ok row →
            Describes env docs row := import_step h hfirst call.notes
      dsimp only
      generalize importDocuments env source store docs call.retrievedBy call.notes = made at hstep
      obtain ⟨out, result⟩ := made
      obtain ⟨hmade, hrow⟩ := hstep
      have htail := ih hmade hrest
      cases result with
      | error exc =>
        intro c hc
        exact ⟨List.mem_append_right _ (htail c hc).1, (htail c hc).2⟩
      | ok row =>
        intro c hc
        obtain rfl | hc := List.mem_cons.mp hc
        · exact ⟨List.mem_append_left _ (List.mem_singleton_self docs), hrow row rfl⟩
        · exact ⟨List.mem_append_right _ (htail c hc).1, (htail c hc).2⟩

/-- A source with the bundled revision and those of commits, none named by digits. -/
structure PinnedStore where
  store : Store
  rows : ∀ r ∈ store.rows, ¬ "sha-".toList <+: r.revision
  disk : ∀ revision dir, store.disk.get? revision = some dir → ¬ "sha-".toList <+: revision

/-- What is wanted of the answers of a run. -/
structure Faithful (env : Interpreter) (answers : List (Documents × CatalogRevision)) : Prop where
  describes : ∀ c ∈ answers, Describes env c.1 c.2
  distinct : ∀ c ∈ answers, ∀ c' ∈ answers, c.2.revision = c'.2.revision →
    SameFiles c.1.files c'.1.files

/-- The first digits tell the document sets of a run apart. -/
def ToldApart (calls : List Import) : Prop :=
  ∀ docs ∈ documentsOf calls, ∀ docs' ∈ documentsOf calls, firstDigits docs = firstDigits docs' →
    SameFiles docs.files docs'.files

/-- **Capture is faithful** in every run of imports whose document sets are told apart by the
first digits of the hash of their catalog document. -/
theorem imports_faithful (env : Interpreter) (source : CatalogSource) (start : PinnedStore)
    (calls : List Import) (htold : ToldApart calls) :
    Faithful env (runImports env source start.store calls) := by
  have hmade : Made env [] start.store :=
    ⟨fun r hr hsha => absurd hsha (start.rows r hr),
      fun revision dir hdir hsha => absurd hsha (start.disk revision dir hdir)⟩
  have hrun := runImports_describes source hmade calls
    fun docs hdocs docs' hdocs' => htold docs' hdocs' docs hdocs
  refine ⟨fun c hc => (hrun c hc).2, fun c hc c' hc' hrevision => ?_⟩
  have hdigits : "sha-".toList ++ firstDigits c.1 = "sha-".toList ++ firstDigits c'.1 := by
    rw [← (hrun c hc).2.revision, ← (hrun c' hc').2.revision, hrevision]
  exact htold c.1 (hrun c hc).1 c'.1 (hrun c' hc').1 (List.append_cancel_left hdigits)

/-! ## Two imports of one catalog -/

/-- The bytes of `{}`. -/
def braces : Bytes := [0x7b, 0x7d]

/-- An interpreter that reads `{}` and nothing else. -/
def bracesOnly : Interpreter where
  loads body := if body = braces then some (.obj []) else none
  loadsText body := if body = braces then some (.obj []) else none
  repr _ := []
  describe
    | .oscalManifestError text => "OscalManifestError: ".toList ++ text
    | _ => []
  limit := 100

def someSource : CatalogSource :=
  ⟨"nist-800-53".toList, "https://example.test/catalog.json".toList, "/data".toList⟩

def emptyStore : PinnedStore where
  store := ⟨[], .empty⟩
  rows _ hr := nomatch hr
  disk _ _ hdir := nomatch hdir

def importOf (files : List (Text × Bytes)) : Import := ⟨.directory (Dict.ofPairs files), none, none⟩

def catalogOnly : Import := importOf [(catalogFile, braces)]

def catalogAndLow : Import :=
  importOf [(catalogFile, braces), ("NIST_SP-800-53_rev5_LOW-baseline_profile.json".toList, braces)]

theorem imports_faithful_twice :
    Faithful bracesOnly (runImports bracesOnly someSource emptyStore.store
      [catalogOnly, catalogOnly]) := by
  refine imports_faithful bracesOnly someSource emptyStore [catalogOnly, catalogOnly] ?_
  have hone : ∀ docs ∈ documentsOf [catalogOnly, catalogOnly],
      docs.files = Dict.ofPairs [(catalogFile, braces)] := by
    intro docs hdocs
    obtain rfl | hdocs := List.mem_cons.mp hdocs
    · rfl
    · obtain rfl := List.mem_singleton.mp hdocs
      rfl
  intro docs hdocs docs' hdocs' _ name
  rw [hone docs hdocs, hone docs' hdocs']

/-- The second import is answered with the row of the first, though it has one document more. -/
theorem baseline_shares_revision :
    ¬ Faithful bracesOnly (runImports bracesOnly someSource emptyStore.store
      [catalogOnly, catalogAndLow]) := by
  intro hfaithful
  have hfiles : (runImports bracesOnly someSource emptyStore.store
      [catalogOnly, catalogAndLow]).map (fun p => p.1.files.items.length) = [1, 2] := by
    decide +kernel
  have hlabels : ((runImports bracesOnly someSource emptyStore.store
      [catalogOnly, catalogAndLow]).map fun p => p.2.revision).Pairwise (· = ·) := by
    decide +kernel
  obtain ⟨a, rest, hanswers, hfirst, hrest⟩ := List.map_eq_cons_iff.mp hfiles
  obtain ⟨b, _, rfl, hsecond, -⟩ := List.map_eq_cons_iff.mp hrest
  rw [hanswers] at hfaithful hlabels
  have hrevision : a.2.revision = b.2.revision :=
    (List.pairwise_cons.mp hlabels).1 _ List.mem_cons_self
  have hsame := hfaithful.distinct a List.mem_cons_self b
    (List.mem_cons_of_mem a List.mem_cons_self) hrevision
  have hlength := congrArg List.length (sortedItems_eq hsame)
  unfold sortedItems at hlength
  rw [List.length_insertionSort, List.length_insertionSort, hfirst, hsecond] at hlength
  cases hlength

end Concord.Catalog
