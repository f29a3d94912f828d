import Recovery.Command.Site
import Recovery.Proofs.Recipe.Path
/-!
# Places of events in a bucket

A URL spells a bucket and, after slashes that do not count, what all keys begin with. The data of
an event goes below that under the name of the event, so that the data of different events is kept
apart.
-/
set_option autoImplicit false

namespace Recovery

namespace Layout

/-! ## URLs -/

/-- What a URL of the bucket is made of. There need not be a key. -/
structure Bucket.Spells (b : Bucket) (url : String) : Prop where
  named : b.name ≠ ""
  plain : '/' ∉ b.name.toList
  spelled : url = bucketScheme ++ b.name ∧ b.stem = "" ∨
    ∃ key, url = bucketScheme ++ b.name ++ "/" ++ key ∧
      Text.Surrounds isSlash key.toList b.stem.toList

theorem isSlash_eq_false_iff {c : Char} : isSlash c = false ↔ c ≠ '/' := beq_eq_false_iff_ne

theorem exists_of_ofUrl {url : String} {b : Bucket} (read : Bucket.ofUrl url = .ok b) :
    ∃ rest, url = bucketScheme ++ String.ofList rest := by
  by_cases begins : bucketScheme.toList.isPrefixOf url.toList = true
  · obtain ⟨rest, whole⟩ := List.isPrefixOf_iff_prefix.mp begins
    refine ⟨rest, String.toList_inj.mp ?_⟩
    rw [String.toList_append, String.toList_ofList, whole]
  · simp [Bucket.ofUrl, begins] at read

/-- The name is all that stands before the first slash, if there is one. -/
structure Fronts (name tail : List Char) : Prop where
  plain : '/' ∉ name
  ends : ∀ c ∈ tail.head?, c = '/'

theorem exists_fronts (rest : List Char) : ∃ name tail, rest = name ++ tail ∧ Fronts name tail := by
  refine ⟨rest.takeWhile (!isSlash ·), rest.dropWhile (!isSlash ·),
    List.takeWhile_append_dropWhile.symm, ⟨?plain, ?ends⟩⟩
  case plain =>
    intro member
    have outside := List.mem_takeWhile_imp member
    exact absurd outside (by decide)
  case ends =>
    intro c first
    have inside := List.head?_dropWhile_not (!isSlash ·) rest
    rw [Option.mem_def.mp first] at inside
    simpa [isSlash] using inside

variable {name tail : List Char}

theorem Fronts.takeWhile_dropWhile (fronts : Fronts name tail) :
    (name ++ tail).takeWhile (!isSlash ·) = name ∧
      (name ++ tail).dropWhile (!isSlash ·) = tail := by
  have inside : ∀ c ∈ name, (!isSlash c) = true := by
    intro c member
    have other : c ≠ '/' := fun same => fronts.plain (same ▸ member)
    simp [isSlash, other]
  rw [List.takeWhile_append_of_pos inside, List.dropWhile_append_of_pos inside]
  cases tail with
  | nil => simp
  | cons c tail =>
    obtain rfl : c = '/' := fronts.ends c rfl
    simp [isSlash]

theorem Fronts.ofUrl (fronts : Fronts name tail) :
    Bucket.ofUrl (bucketScheme ++ String.ofList (name ++ tail)) =
      if name = [] then
        .error (.validation ("url " ++ (bucketScheme ++ String.ofList (name ++ tail)))
          "bucket is empty")
      else .ok ⟨String.ofList name, String.ofList (Text.trimBy isSlash (tail.drop 1))⟩ := by
  have begins : bucketScheme.toList.isPrefixOf (bucketScheme.toList ++ (name ++ tail)) = true :=
    List.isPrefixOf_iff_prefix.mpr (List.prefix_append _ _)
  have after : (bucketScheme.toList ++ (name ++ tail)).drop bucketScheme.length = name ++ tail :=
    List.drop_left
  obtain ⟨taken, dropped⟩ := fronts.takeWhile_dropWhile
  unfold Bucket.ofUrl
  simp [begins, after, taken, dropped]

/-- A bucket is read of a URL just if the URL spells it. -/
theorem ofUrl_eq_ok_iff {url : String} {b : Bucket} :
    Bucket.ofUrl url = .ok b ↔ b.Spells url := by
  constructor
  · intro read
    obtain ⟨rest, rfl⟩ := exists_of_ofUrl read
    obtain ⟨name, tail, rfl, fronts⟩ := exists_fronts rest
    rw [fronts.ofUrl] at read
    split at read
    · cases read
    · rename_i named
      obtain rfl := Except.ok.inj read
      refine ⟨?named, ?plain, ?spelled⟩
      case named => simpa using named
      case plain => simpa using fronts.plain
      case spelled =>
        cases tail with
        | nil =>
          left
          rw [List.append_nil]
          exact ⟨rfl, rfl⟩
        | cons c key =>
          obtain rfl : c = '/' := fronts.ends c rfl
          right
          refine ⟨String.ofList key, String.toList_inj.mp (by simp), ?_⟩
          rw [String.toList_ofList, String.toList_ofList]
          exact Text.trimBy_eq_iff.mp rfl
  · rintro ⟨named, plain, spelled⟩
    have some_char : b.name.toList ≠ [] := fun empty => named (String.toList_eq_nil_iff.mp empty)
    rcases spelled with ⟨rfl, stemless⟩ | ⟨key, rfl, surrounds⟩
    · have fronts : Fronts b.name.toList [] := ⟨plain, by simp⟩
      have joined : bucketScheme ++ b.name = bucketScheme ++ String.ofList (b.name.toList ++ []) :=
        String.toList_inj.mp (by simp)
      have core : Text.trimBy isSlash [] = b.stem.toList := by
        rw [stemless]
        rfl
      rw [joined, fronts.ofUrl, if_neg some_char, List.drop_nil, core, String.ofList_toList,
        String.ofList_toList]
    · have fronts : Fronts b.name.toList ('/' :: key.toList) := ⟨plain, by simp⟩
      have joined : bucketScheme ++ b.name ++ "/" ++ key =
          bucketScheme ++ String.ofList (b.name.toList ++ '/' :: key.toList) :=
        String.toList_inj.mp (by simp)
      have core : Text.trimBy isSlash key.toList = b.stem.toList := Text.trimBy_eq_iff.mpr surrounds
      rw [joined, fronts.ofUrl, if_neg some_char, List.drop_one, List.tail_cons, core,
        String.ofList_toList, String.ofList_toList]

/-! ## Places of events -/

/-- What an event can be called: it is a single segment of a key. -/
structure IsEventName (event : String) : Prop where
  some_char : event ≠ ""
  plain : '/' ∉ event.toList

/-- The bucket with all keys under the event. -/
def Bucket.forEvent (b : Bucket) (event : String) : Bucket :=
  ⟨b.name, if b.stem = "" then event else b.stem ++ "/" ++ event⟩

variable {event : String}

theorem IsEventName.outside (named : IsEventName event) {c : Char} (member : c ∈ event.toList) :
    isSlash c = false := by
  apply isSlash_eq_false_iff.mpr
  rintro rfl
  exact named.plain member

theorem IsEventName.first (named : IsEventName event) :
    ∀ c ∈ event.toList.head?, isSlash c = false :=
  fun _ first => named.outside (List.mem_of_mem_head? first)

theorem IsEventName.last (named : IsEventName event) :
    ∀ c ∈ event.toList.getLast?, isSlash c = false :=
  fun _ last => named.outside (List.mem_of_mem_getLast? last)

theorem segments_forEvent (b : Bucket) (plain : '/' ∉ event.toList) :
    segments (b.forEvent event).stem.toList =
      (if b.stem = "" then [] else segments b.stem.toList) ++ [event.toList] := by
  unfold Bucket.forEvent
  by_cases stemless : b.stem = ""
  · simp [stemless, segments_plain plain]
  · simp only [stemless, if_false]
    rw [segments_join, segments_plain plain]

/-- Of two events under one bucket neither is below the other. -/
theorem eq_of_covers_forEvent {b : Bucket} {other : String} (plain : '/' ∉ event.toList)
    (plain' : '/' ∉ other.toList)
    (covers : Covers (b.forEvent event).stem (b.forEvent other).stem) : event = other := by
  rw [Covers, segments_forEvent b plain, segments_forEvent b plain',
    List.prefix_append_right_inj] at covers
  have same := covers.eq_of_length rfl
  exact String.toList_inj.mp (List.singleton_inj.mp same)

/-- What is left of the URL of a bucket without the slashes at its end. -/
inductive Bucket.Trimmed (b : Bucket) : String → Prop where
  | bare : b.stem = "" → Trimmed b (bucketScheme ++ b.name)
  | keyed {front : List Char} : b.stem ≠ "" → (∀ c ∈ front, isSlash c = true) →
    (∀ c ∈ b.stem.toList.head?, isSlash c = false) →
    Trimmed b (bucketScheme ++ b.name ++ "/" ++ (String.ofList front ++ b.stem))

theorem Bucket.Spells.trimmed {b : Bucket} {url : String} (spells : b.Spells url) :
    b.Trimmed (String.ofList (Text.trimEndBy isSlash url.toList)) := by
  obtain ⟨named, plain, spelled⟩ := spells
  have some_char : b.name.toList ≠ [] := fun empty => named (String.toList_eq_nil_iff.mp empty)
  have ends : Text.trimEndBy isSlash (bucketScheme ++ b.name).toList =
      (bucketScheme ++ b.name).toList := by
    apply Text.trimEndBy_eq_self
    intro c last
    rw [String.toList_append, List.getLast?_append_of_ne_nil _ some_char] at last
    apply isSlash_eq_false_iff.mpr
    rintro rfl
    exact plain (List.mem_of_mem_getLast? last)
  rcases spelled with ⟨rfl, stemless⟩ | ⟨key, rfl, ⟨front, back, whole, before, after⟩, first, last⟩
  · rw [ends, String.ofList_toList]
    exact .bare stemless
  · have spelled : (bucketScheme ++ b.name ++ "/" ++ key).toList =
        (bucketScheme ++ b.name).toList ++ '/' :: front ++ b.stem.toList ++ back := by
      rw [String.toList_append, whole]
      simp
    rw [spelled, Text.trimEndBy_append after]
    by_cases stemless : b.stem = ""
    · have slashes : ∀ c ∈ '/' :: front, isSlash c = true := List.forall_mem_cons.mpr ⟨rfl, before⟩
      rw [stemless, String.toList_empty, List.append_nil, Text.trimEndBy_append slashes, ends,
        String.ofList_toList]
      exact .bare stemless
    · have some_char : b.stem.toList ≠ [] := by
        intro empty
        exact stemless (String.toList_eq_nil_iff.mp empty)
      have joined :
          String.ofList ((bucketScheme ++ b.name).toList ++ '/' :: front ++ b.stem.toList) =
            bucketScheme ++ b.name ++ "/" ++ (String.ofList front ++ b.stem) :=
        String.toList_inj.mp (by simp)
      rw [Text.trimEndBy_eq_self, joined]
      · exact .keyed stemless before first
      · intro c member
        rw [List.getLast?_append_of_ne_nil _ some_char] at member
        exact last c member

/-- The slashes that do not count in a URL do not count under an event either. -/
theorem Bucket.Spells.eventUrl {b : Bucket} {url : String} (spells : b.Spells url)
    (named : IsEventName event) : (b.forEvent event).Spells (eventUrl url event) := by
  have trimmed := spells.trimmed
  refine ⟨spells.named, spells.plain, .inr ?_⟩
  unfold Layout.eventUrl Bucket.forEvent
  generalize String.ofList (Text.trimEndBy isSlash url.toList) = shorter at trimmed
  cases trimmed with
  | bare stemless =>
    refine ⟨event, rfl, ?_⟩
    rw [if_pos stemless]
    exact ⟨⟨[], [], by simp⟩, named.first, named.last⟩
  | @keyed front stemmed slashes first =>
    obtain ⟨c, rest, stem⟩ := List.exists_cons_of_ne_nil fun empty =>
      stemmed (String.toList_eq_nil_iff.mp empty)
    have some_char : event.toList ≠ [] := fun empty =>
      named.some_char (String.toList_eq_nil_iff.mp empty)
    refine ⟨String.ofList front ++ (b.stem ++ "/" ++ event), by simp only [String.append_assoc], ?_⟩
    rw [if_neg stemmed]
    refine ⟨⟨front, [], by simp, slashes, by simp⟩, ?first, ?last⟩
    case first =>
      rw [stem] at first
      simpa [stem] using first
    case last =>
      rw [String.toList_append, List.getLast?_append_of_ne_nil _ some_char]
      exact named.last

end Layout

namespace Site

open Layout (Bucket Covers IsEventName)

/-- Whatever slashes there are in the URL of a site, the data of each event goes to the same bucket
and to a place there that no other event has, nor has one above or below it. A URL is accepted just
if it spells a bucket. -/
theorem events_have_own_places {site : Site} {b : Bucket}
    (accepted : Bucket.ofUrl site.remoteUrl = .ok b) :
    (∀ direction event, IsEventName event →
      Bucket.ofUrl (site.objectStorage direction event).remoteUrl = .ok (b.forEvent event)) ∧
    (∀ event other, IsEventName event → IsEventName other → event ≠ other →
      (b.forEvent event).stem ≠ (b.forEvent other).stem ∧
        ¬Covers (b.forEvent event).stem (b.forEvent other).stem ∧
        ¬Covers (b.forEvent other).stem (b.forEvent event).stem) ∧
    ∀ url place, Bucket.ofUrl url = .ok place ↔ place.Spells url := by
  have spells : b.Spells site.remoteUrl := Layout.ofUrl_eq_ok_iff.mp accepted
  refine ⟨fun direction event named => ?own, fun event other named named' differ => ?apart,
    fun url place => Layout.ofUrl_eq_ok_iff⟩
  case own => exact Layout.ofUrl_eq_ok_iff.mpr (spells.eventUrl named)
  case apart =>
    have uncovered : ¬Covers (b.forEvent event).stem (b.forEvent other).stem := fun covers =>
      differ (Layout.eq_of_covers_forEvent named.plain named'.plain covers)
    have uncovered' : ¬Covers (b.forEvent other).stem (b.forEvent event).stem := fun covers =>
      differ (Layout.eq_of_covers_forEvent named'.plain named.plain covers).symm
    refine ⟨fun same => uncovered ?_, uncovered, uncovered'⟩
    rw [same]
    exact List.prefix_refl _

/-- The URL of the bucket has slashes before, in and after its key. -/
def slashed : Site where
  kubeconfig := none
  ns := "prod"
  workerImage := "worker:1"
  workerPort := WorkerOptions.defaultPort
  workerServiceType := WorkerOptions.defaultServiceType
  workerTlsDir := none
  searchDomains := []
  storeClaim := "dr"
  storeSize := none
  storageClass := none
  snapshotClass := none
  issuer := .issuer "ca"
  remoteUrl := "s3://backups//prod//eu//"
  credentialsSecret := "keys"
  endpoint := none
  region := none
  timeoutsFile := none

theorem events_have_own_places_of_slashed :
    Bucket.ofUrl slashed.remoteUrl = .ok ⟨"backups", "prod//eu"⟩ ∧
      IsEventName "nightly" ∧ IsEventName "nightly.1" ∧
      Bucket.ofUrl (slashed.objectStorage .upload "nightly").remoteUrl =
        .ok ⟨"backups", "prod//eu/nightly"⟩ ∧
      ¬Covers "prod//eu/nightly" "prod//eu/nightly.1" := by
  have accepted : Bucket.ofUrl slashed.remoteUrl = .ok ⟨"backups", "prod//eu"⟩ := rfl
  have named : IsEventName "nightly" := ⟨by decide, by decide⟩
  have named' : IsEventName "nightly.1" := ⟨by decide, by decide⟩
  obtain ⟨own, apart, -⟩ := events_have_own_places accepted
  obtain ⟨-, uncovered, -⟩ := apart "nightly" "nightly.1" named named' (by decide)
  exact ⟨accepted, named, named', own .upload "nightly" named, uncovered⟩

end Site

end Recovery
