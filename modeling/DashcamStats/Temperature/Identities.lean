import DashcamStats.Library.Follow
import DashcamStats.Temperature.Journal

namespace DashcamStats.Temperature

open Relation

variable {Session Value : Type} {N M : ℕ} {s s' : Journal Session Value}

theorem Readable.exists_cons {first : ℕ} {readings : List (Reading Session Value)}
    (h : Readable N first readings) : ∃ r rest, readings = r :: rest ∧ r.sequence = first := by
  cases readings with
  | nil => simpa using h.begins
  | cons r rest => exact ⟨r, rest, rfl, by simpa using h.begins⟩

theorem le_last {chunk : Chunk Session Value} (h : Readable N chunk.first chunk.readings)
    {row : Reading Session Value} (member : row ∈ chunk.readings) : row.sequence ≤ chunk.last := by
  have numbered := h.numbered
  unfold Chunk.last
  obtain none | ⟨front, last, whole⟩ := List.eq_nil_or_concat chunk.readings
  · simp [none] at member
  · rw [whole, List.concat_eq_append] at member numbered
    rw [whole, List.concat_eq_append, List.getLast?_append_of_ne_nil _ (by simp)]
    obtain earlier | rfl := by simpa using member
    · exact ((List.pairwise_append.mp numbered).2.2 row earlier last (by simp)).le
    · simp

theorem last_mem {chunk : Chunk Session Value} (h : Readable N chunk.first chunk.readings) :
    ∃ row ∈ chunk.readings, row.sequence = chunk.last := by
  obtain ⟨r, rest, begins, -⟩ := h.exists_cons
  have nonempty : chunk.readings ≠ [] := by simp [begins]
  exact ⟨_, List.getLast_mem nonempty, by
    simp [Chunk.last, List.getLast?_eq_getLast_of_ne_nil nonempty]⟩

theorem first_le_last {chunk : Chunk Session Value} (h : Readable N chunk.first chunk.readings) :
    chunk.first ≤ chunk.last := by
  obtain ⟨r, rest, begins, same⟩ := h.exists_cons
  exact same ▸ le_last h (by simp [begins])

structure Good (N : ℕ) (files : List (File Session Value)) (chunks : List (Chunk Session Value)) :
    Prop where
  readable : ∀ chunk ∈ chunks, Readable N chunk.first chunk.readings
  above : chunks.Pairwise fun a b => a.last < b.first
  onDisk : ∀ chunk ∈ chunks, ⟨chunk.first, some chunk.readings⟩ ∈ files

theorem Good.nil (files : List (File Session Value)) : Good N files [] := by
  constructor <;> simp

theorem Good.sublist {files : List (File Session Value)} {chunks kept : List (Chunk Session Value)}
    (good : Good N files chunks) (h : kept.Sublist chunks) : Good N files kept :=
  ⟨fun chunk member => good.readable chunk (h.subset member), good.above.sublist h,
    fun chunk member => good.onDisk chunk (h.subset member)⟩

theorem Good.mono {files files' : List (File Session Value)} {chunks : List (Chunk Session Value)}
    (good : Good N files chunks)
    (kept : ∀ chunk ∈ chunks, (⟨chunk.first, some chunk.readings⟩ : File Session Value) ∈ files →
      ⟨chunk.first, some chunk.readings⟩ ∈ files') : Good N files' chunks :=
  ⟨good.readable, good.above, fun chunk member => kept chunk member (good.onDisk chunk member)⟩

theorem Good.append_singleton {files : List (File Session Value)}
    {chunks : List (Chunk Session Value)} {next : Chunk Session Value} (good : Good N files chunks)
    (readable : Readable N next.first next.readings)
    (above : ∀ chunk ∈ chunks.getLast?, chunk.last < next.first)
    (onDisk : ⟨next.first, some next.readings⟩ ∈ files) : Good N files (chunks ++ [next]) := by
  refine ⟨?_, ?_, ?_⟩
  · intro chunk member
    obtain old | rfl := by simpa using member
    · exact good.readable chunk old
    · exact readable
  · refine List.pairwise_append.mpr ⟨good.above, List.pairwise_singleton _ _, ?_⟩
    intro chunk member _ new
    obtain rfl := List.mem_singleton.mp new
    obtain rfl | ⟨front, last, rfl⟩ := List.eq_nil_or_concat chunks
    · cases member
    · rw [List.concat_eq_append] at member above good
      have beyond := above last (by simp)
      obtain earlier | rfl := by simpa using member
      · have order := (List.pairwise_append.mp good.above).2.2 chunk earlier last (by simp)
        have proper := first_le_last (good.readable last (by simp))
        omega
      · exact beyond
  · intro chunk member
    obtain old | rfl := by simpa using member
    · exact good.onDisk chunk old
    · exact onDisk

theorem Good.disjoint {files : List (File Session Value)} {front back : List (Chunk Session Value)}
    (good : Good N files (front ++ back)) {a b : Chunk Session Value} (early : a ∈ front)
    (late : b ∈ back) : a.first ≠ b.first := by
  have order := (List.pairwise_append.mp good.above).2.2 a early b late
  have proper := first_le_last (good.readable a (List.mem_append_left _ early))
  omega

def Place.pending : Place Session Value → Option (Session × ℕ)
  | .entering call | .checkpointing call _ | .discarding call _ =>
    call.map fun given => (given.1, given.2.1)
  | .reserving reading | .storing reading => some (reading.session, reading.elapsed)
  | .idle | .evicting _ => none

def Place.doomed : Place Session Value → List ℕ
  | .discarding _ files | .evicting files => files
  | _ => []

def Place.established : Place Session Value → Bool
  | .checkpointing _ _ | .discarding _ _ => true
  | _ => false

def Place.busy : Place Session Value → Bool
  | .reserving _ | .storing _ | .evicting _ => true
  | _ => false

structure Inv (N : ℕ) (s : Journal Session Value) : Prop where
  numbered : s.stored.Pairwise fun a b => a.sequence < b.sequence
  bounded : ∀ reading ∈ s.stored, reading.sequence ≤ MAX_SAFE_INTEGER
  watermark : s.loaded = true ∨ s.place.established = true →
    ∀ reading ∈ s.stored, reading.sequence ≤ s.highWatermark
  working : s.place.busy = true → s.loaded = true
  reserved : ∀ reading, s.place = .reserving reading ∨ s.place = .storing reading →
    reading.sequence ≤ MAX_SAFE_INTEGER ∧ ∀ old ∈ s.stored, old.sequence < reading.sequence
  storing : ∀ reading, s.place = .storing reading → reading.sequence = s.highWatermark
  good : Good N s.files s.chunks
  recovered : ∀ call chunks, s.place = .checkpointing call chunks → Good N s.files chunks
  doomed : ∀ chunk ∈ s.chunks, chunk.first ∉ s.place.doomed
  unloaded : s.loaded = false → (∀ call files, s.place ≠ .discarding call files) → s.chunks = []
  contents : ∀ file ∈ s.files, ∀ readings, file.content = some readings →
    ∀ reading ∈ readings, reading ∈ s.stored
  published : ∀ reading ∈ s.published, reading ∈ s.stored
  timed : ∀ session elapsed, s.place.pending = some (session, elapsed) →
    ∀ reading ∈ s.stored, reading.session = session → reading.elapsed < elapsed

theorem Inv.fresh : Inv N (.fresh : Journal Session Value) := by
  constructor <;> simp [Journal.fresh, Good.nil, Place.doomed, Place.established, Place.pending,
    Place.busy]

theorem Inv.mem_stored (inv : Inv N s) {chunk : Chunk Session Value} (member : chunk ∈ s.chunks)
    {reading : Reading Session Value} (row : reading ∈ chunk.readings) : reading ∈ s.stored :=
  inv.contents _ (inv.good.onDisk chunk member) _ rfl reading row

theorem takeLast_sublist {A : Type} (n : ℕ) (xs : List A) : (takeLast n xs).Sublist xs :=
  List.drop_sublist _ _

theorem Inv.keep (inv : Inv N s) {call : Option (Session × ℕ × Value)}
    {chunks : List (Chunk Session Value)} (good : Good N s.files chunks)
    (watermark : ∀ reading ∈ s.stored, reading.sequence ≤ s.highWatermark)
    (pending : s.place.pending = call.map fun given => (given.1, given.2.1)) :
    Inv N (s.keep M call chunks) := by
  have kept := good.sublist (takeLast_sublist M chunks)
  refine ⟨inv.numbered, inv.bounded, fun _ => watermark, by simp [Journal.keep, Place.busy],
    by simp [Journal.keep], by simp [Journal.keep], kept, by simp [Journal.keep], ?_, ?_,
    inv.contents, inv.published, ?_⟩
  · intro chunk member among
    simp only [Journal.keep, Place.doomed, List.mem_filter, Bool.not_eq_true'] at among
    have listed : chunk.first ∈ (takeLast M chunks).map Chunk.first := List.mem_map_of_mem member
    simp [listed] at among
  · intro _ not
    exact absurd rfl (not call _)
  · intro session elapsed given
    exact inv.timed session elapsed (pending.trans given)

theorem Inv.begin (inv : Inv N s) (loaded : s.loaded = true)
    {call : Option (Session × ℕ × Value)} (valid : Bool)
    (pending : s.place.pending = call.map fun given => (given.1, given.2.1)) :
    Inv N (s.begin call valid) := by
  have watermark := inv.watermark (.inl loaded)
  have ended : Inv N { s with place := .idle } := by
    refine ⟨inv.numbered, inv.bounded, fun _ => watermark, by simp [Place.busy], by simp, by simp,
      inv.good, by simp, by simp [Place.doomed], ?_, inv.contents, inv.published, by simp [Place.pending]⟩
    intro unloaded
    have unloaded : s.loaded = false := unloaded
    rw [loaded] at unloaded
    cases unloaded
  cases call with
  | none =>
    refine ⟨ended.numbered, ended.bounded, ended.watermark, ended.working, ended.reserved,
      ended.storing, ended.good, ended.recovered, ended.doomed, ended.unloaded, ended.contents, ?_,
      ended.timed⟩
    intro reading member
    obtain old | ⟨chunk, among, row⟩ := by
      simpa only [Journal.begin, List.mem_append, List.mem_flatMap] using member
    · exact inv.published reading old
    · exact inv.mem_stored among row
  | some given =>
    obtain ⟨session, elapsed, value⟩ := given
    simp only [Journal.begin]
    split
    · rename_i allowed
      simp only [Bool.and_eq_true, decide_eq_true_eq] at allowed
      refine ⟨inv.numbered, inv.bounded, fun _ => watermark, fun _ => loaded, ?_, by simp,
        inv.good, by simp, by simp [Place.doomed], ?_, inv.contents, inv.published, ?_⟩
      · rintro reading (here | here)
        · obtain rfl := Place.reserving.inj here
          exact ⟨allowed.2, fun old member => Nat.lt_succ_of_le (watermark old member)⟩
        · cases here
      · intro unloaded
        have unloaded : s.loaded = false := unloaded
        rw [loaded] at unloaded
        cases unloaded
      · intro session' elapsed' mine
        exact inv.timed session' elapsed' (pending.trans mine)
    · exact ended

theorem Inv.idle (inv : Inv N s) (still : ∀ call files, s.place ≠ .discarding call files) :
    Inv N { s with place := .idle } := by
  refine ⟨inv.numbered, inv.bounded, ?_, by simp [Place.busy], by simp, by simp, inv.good, by simp,
    by simp [Place.doomed], fun unloaded _ => inv.unloaded unloaded still, inv.contents,
    inv.published, by simp [Place.pending]⟩
  intro established
  exact inv.watermark (.inl (by simpa [Place.established] using established))

theorem mem_writeFile {files : List (File Session Value)} {first : ℕ}
    {readings : List (Reading Session Value)} {file : File Session Value}
    (h : file ∈ writeFile files first readings) : file = ⟨first, some readings⟩ ∨ file ∈ files := by
  obtain rfl | old := List.mem_cons.mp h
  · exact .inl rfl
  · exact .inr (List.mem_of_mem_filter old)

theorem mem_writeFile_of_ne {files : List (File Session Value)} {first : ℕ}
    {readings : List (Reading Session Value)} {file : File Session Value} (h : file ∈ files)
    (different : file.first ≠ first) : file ∈ writeFile files first readings :=
  List.mem_cons_of_mem _ (List.mem_filter.mpr ⟨h, by simpa using different⟩)

theorem Inv.store_good (inv : Inv N s) (positive : 0 < N) {reading : Reading Session Value}
    (place : s.place = .storing reading) : ∃ front next,
      Good N (writeFile s.files next.first next.readings) (front ++ [next]) ∧
      (∀ row ∈ next.readings, row ∈ s.stored ∨ row = reading) ∧
      s.store N M reading = { s with
        files := writeFile s.files next.first next.readings
        chunks := takeLast M (front ++ [next])
        place := .evicting (((front ++ [next]).take ((front ++ [next]).length - M)).map Chunk.first)
        stored := s.stored ++ [reading] } := by
  have above := (inv.reserved reading (.inr place)).2
  have later := inv.timed reading.session reading.elapsed (by simp [place, Place.pending])
  have extended : ∀ front (next : Chunk Session Value), Good N s.files front →
      (∀ chunk ∈ front, chunk.last < next.first) → Readable N next.first next.readings →
      Good N (writeFile s.files next.first next.readings) (front ++ [next]) := by
    intro front next good before readable
    have kept : Good N (writeFile s.files next.first next.readings) front := by
      refine good.mono fun chunk member there => mem_writeFile_of_ne there ?_
      have order := before chunk member
      have proper := first_le_last (good.readable chunk member)
      simp only
      omega
    refine kept.append_singleton readable (fun chunk last => before chunk ?_) List.mem_cons_self
    exact List.mem_of_getLast? last
  cases active : s.chunks.getLast?.filter (·.readings.length < N) with
  | none =>
    refine ⟨s.chunks, ⟨reading.sequence, [reading]⟩, ?_, by simp, by simp [Journal.store, active]⟩
    refine extended _ _ inv.good (fun chunk member => ?_) ⟨rfl, positive, by simp, by simp⟩
    obtain ⟨row, inside, same⟩ := last_mem (inv.good.readable chunk member)
    exact same ▸ above row (inv.mem_stored member inside)
  | some chunk =>
    obtain ⟨last, room⟩ := Option.filter_eq_some_iff.mp active
    have room : chunk.readings.length < N := by simpa using room
    obtain ⟨front, whole⟩ := List.getLast?_eq_some_iff.mp last
    have mine : chunk ∈ s.chunks := by simp [whole]
    have readable := inv.good.readable chunk mine
    have old : ∀ row ∈ chunk.readings, row ∈ s.stored := fun row => inv.mem_stored mine
    have good := inv.good
    rw [whole] at good
    refine ⟨front, ⟨chunk.first, chunk.readings ++ [reading]⟩, ?_, ?_, ?_⟩
    · refine extended _ _ (good.sublist (List.sublist_append_left _ _)) (fun other member => ?_) ?_
      · exact (List.pairwise_append.mp good.above).2.2 other member chunk (by simp)
      · obtain ⟨r, rest, begins, same⟩ := readable.exists_cons
        refine ⟨by simp [begins, same], by simp; omega, ?_, ?_⟩
        · refine List.pairwise_append.mpr ⟨readable.numbered, by simp, fun row member _ new => ?_⟩
          obtain rfl := List.mem_singleton.mp new
          exact above row (old row member)
        · refine List.pairwise_append.mpr ⟨readable.timed, by simp, fun row member _ new => ?_⟩
          obtain rfl := List.mem_singleton.mp new
          exact later row (old row member)
    · intro row member
      obtain earlier | rfl := by simpa using member
      · exact .inl (old row earlier)
      · exact .inr rfl
    · simp only [Journal.store, active, Option.isSome_some, if_true]
      rw [whole, List.dropLast_concat]

theorem Inv.store (inv : Inv N s) (positive : 0 < N) {reading : Reading Session Value}
    (place : s.place = .storing reading) : Inv N (s.store N M reading) := by
  obtain ⟨small, above⟩ := inv.reserved reading (.inr place)
  have top := inv.storing reading place
  have loaded := inv.working (by simp [place, Place.busy])
  have watermark := inv.watermark (.inl loaded)
  obtain ⟨front, next, good, rows, same⟩ := inv.store_good (M := M) positive place
  rw [same]
  refine ⟨?_, ?_, fun _ => ?_, fun _ => loaded, by simp, by simp,
    good.sublist (takeLast_sublist _ _), by simp, ?_, ?_, ?_, ?_, by simp [Place.pending]⟩
  · refine List.pairwise_append.mpr ⟨inv.numbered, by simp, fun old member _ new => ?_⟩
    obtain rfl := List.mem_singleton.mp new
    exact above old member
  · intro old member
    obtain before | rfl := by simpa using member
    · exact inv.bounded old before
    · exact small
  · intro old member
    obtain before | rfl := by simpa using member
    · exact watermark old before
    · exact top.le
  · intro chunk member among
    obtain ⟨other, evicted, name⟩ := List.mem_map.mp among
    have parts := List.take_append_drop ((front ++ [next]).length - M) (front ++ [next])
    rw [← parts] at good
    exact good.disjoint evicted member name
  · intro unloaded
    have unloaded : s.loaded = false := unloaded
    rw [loaded] at unloaded
    cases unloaded
  · intro file member readings content row inside
    obtain rfl | old := mem_writeFile member
    · obtain rfl := Option.some.inj content
      obtain before | rfl := rows row inside
      · simp [before]
      · simp
    · simp [inv.contents file old readings content row inside]
  · intro row member
    simp [inv.published row member]

theorem Inv.remove (inv : Inv N s) {first : ℕ} {rest : List ℕ} (succeeds : Bool)
    (doomed : s.place.doomed = first :: rest) {place : Place Session Value}
    (next : (∃ call, s.place = .discarding call (first :: rest) ∧ place = .discarding call rest) ∨
      (s.place = .evicting (first :: rest) ∧ place = .evicting rest)) :
    Inv N { s.remove first succeeds with place := place } := by
  have fewer : ∀ file ∈ (s.remove first succeeds).files, file ∈ s.files := by
    intro file member
    unfold Journal.remove at member
    split at member
    · exact List.mem_of_mem_filter member
    · exact member
  have good : Good N (s.remove first succeeds).files s.chunks := by
    refine inv.good.mono fun chunk member there => ?_
    have spared := inv.doomed chunk member
    rw [doomed, List.mem_cons, not_or] at spared
    unfold Journal.remove
    split
    · exact List.mem_filter.mpr ⟨there, by simpa using spared.1⟩
    · exact there
  have same : (s.remove first succeeds).stored = s.stored ∧
      (s.remove first succeeds).loaded = s.loaded ∧
      (s.remove first succeeds).highWatermark = s.highWatermark ∧
      (s.remove first succeeds).chunks = s.chunks ∧
      (s.remove first succeeds).published = s.published := by
    unfold Journal.remove
    split <;> exact ⟨rfl, rfl, rfl, rfl, rfl⟩
  obtain ⟨stored, loaded, highWatermark, chunks, published⟩ := same
  have spared : ∀ chunk ∈ s.chunks, chunk.first ∉ rest := by
    intro chunk member among
    exact inv.doomed chunk member (doomed ▸ List.mem_cons_of_mem _ among)
  obtain ⟨call, before, rfl⟩ | ⟨before, rfl⟩ := next
  · refine ⟨?_, ?_, fun _ => ?_, by simp [Place.busy], by simp, by simp, ?_, by simp, ?_,
      ?_, ?_, ?_, ?_⟩
    · exact stored ▸ inv.numbered
    · exact stored ▸ inv.bounded
    · rw [stored, highWatermark]
      exact inv.watermark (.inr (by simp [before, Place.established]))
    · exact chunks ▸ good
    · exact chunks ▸ spared
    · exact fun _ not => absurd rfl (not call rest)
    · exact fun file member => stored ▸ inv.contents file (fewer file member)
    · exact stored ▸ published ▸ inv.published
    · intro session elapsed given
      rw [stored]
      exact inv.timed session elapsed (by rw [before]; exact given)
  · have running := inv.working (by simp [before, Place.busy])
    refine ⟨?_, ?_, fun _ => ?_, fun _ => ?_, by simp, by simp, ?_, by simp, ?_, fun unloaded => ?_,
      ?_, ?_, by simp [Place.pending]⟩
    · exact stored ▸ inv.numbered
    · exact stored ▸ inv.bounded
    · rw [stored, highWatermark]
      exact inv.watermark (.inl running)
    · exact loaded.trans running
    · exact chunks ▸ good
    · exact chunks ▸ spared
    · rw [loaded, running] at unloaded
      cases unloaded
    · exact fun file member => stored ▸ inv.contents file (fewer file member)
    · exact stored ▸ published ▸ inv.published

variable [DecidableEq Session]

theorem readChunk_eq_some {file : File Session Value} {chunk : Chunk Session Value}
    (h : readChunk N file = some chunk) : file = ⟨chunk.first, some chunk.readings⟩ ∧
      Readable N chunk.first chunk.readings := by
  obtain ⟨first, content⟩ := file
  cases content with
  | none => simp [readChunk] at h
  | some readings =>
    simp only [readChunk] at h
    split at h
    · rename_i readable
      obtain rfl := Option.some.inj h
      exact ⟨rfl, readable⟩
    · cases h

theorem readChunk_of_readable {chunk : Chunk Session Value}
    (h : Readable N chunk.first chunk.readings) :
    readChunk N ⟨chunk.first, some chunk.readings⟩ = some chunk := by
  simp [readChunk, h]

theorem recoverFile_good {files : List (File Session Value)} {file : File Session Value}
    {recovered : ℕ × List (Chunk Session Value)} (good : Good N files recovered.2)
    (member : file ∈ files) : Good N files (recoverFile N recovered file).2 := by
  unfold recoverFile
  cases read : readChunk N file with
  | none => exact good
  | some chunk =>
    obtain ⟨same, readable⟩ := readChunk_eq_some read
    simp only
    split
    · rename_i above
      refine good.append_singleton readable (fun last there => ?_) (same ▸ member)
      rw [Option.mem_def] at there
      simpa [there] using above
    · exact good

theorem recover_good (files : List (File Session Value)) : Good N files (recover N files).2 := by
  have all : ∀ (rest : List (File Session Value)) (recovered : ℕ × List (Chunk Session Value)),
      (∀ file ∈ rest, file ∈ files) → Good N files recovered.2 →
        Good N files (rest.foldl (recoverFile N) recovered).2 := by
    intro rest
    induction rest with
    | nil => exact fun _ _ good => good
    | cons file rest ih =>
      intro recovered members good
      exact ih _ (fun other member => members other (List.mem_cons_of_mem _ member))
        (recoverFile_good good (members file List.mem_cons_self))
  exact all _ _ (fun file member => List.mem_mergeSort.mp member) (.nil files)

def File.bound (N : ℕ) (file : File Session Value) : ℕ :=
  match readChunk N file with
  | none => min MAX_SAFE_INTEGER (file.first + N - 1)
  | some chunk => chunk.last

theorem recoverFile_watermark (recovered : ℕ × List (Chunk Session Value))
    (file : File Session Value) :
    (recoverFile N recovered file).1 = max recovered.1 (file.bound N) := by
  unfold recoverFile File.bound
  cases readChunk N file <;> rfl

theorem bound_le_recover {files : List (File Session Value)} {file : File Session Value}
    (member : file ∈ files) : file.bound N ≤ (recover N files).1 := by
  have all : ∀ (rest : List (File Session Value)) (recovered : ℕ × List (Chunk Session Value)),
      recovered.1 ≤ (rest.foldl (recoverFile N) recovered).1 ∧
        ∀ file ∈ rest, file.bound N ≤ (rest.foldl (recoverFile N) recovered).1 := by
    intro rest
    induction rest with
    | nil => simp
    | cons other rest ih =>
      intro recovered
      obtain ⟨start, later⟩ := ih (recoverFile N recovered other)
      rw [recoverFile_watermark] at start
      refine ⟨(le_max_left _ _).trans start, fun file member => ?_⟩
      obtain rfl | among := List.mem_cons.mp member
      · exact (le_max_right _ _).trans start
      · exact later file among
  exact (all _ _).2 file (List.mem_mergeSort.mpr member)

theorem bound_of_recoverable (bounded : ∀ reading ∈ s.stored, reading.sequence ≤ MAX_SAFE_INTEGER)
    (recoverable : s.Recoverable N) {reading : Reading Session Value} (member : reading ∈ s.stored) :
    reading.sequence ≤ max (recover N s.files).1 (s.checkpoint.getD 0) := by
  obtain checked | ⟨file, among, covered⟩ := recoverable reading member
  · exact checked.trans (le_max_right _ _)
  · have found := bound_le_recover (N := N) among
    refine le_trans ?_ (le_max_left _ _)
    refine le_trans ?_ found
    unfold File.bound
    cases read : readChunk N file with
    | none =>
      rw [read] at covered
      have small := bounded reading member
      simp only at covered ⊢
      omega
    | some chunk =>
      rw [read] at covered
      obtain ⟨row, inside, order⟩ := covered
      exact order.trans (le_last (readChunk_eq_some read).2 inside)

theorem Inv.load (inv : Inv N s) {call : Option (Session × ℕ × Value)}
    (place : s.place = .entering call) (fresh : s.loaded = false)
    (recoverable : s.Recoverable N) : Inv N (s.load N M call) := by
  have watermark : ∀ reading ∈ s.stored,
      reading.sequence ≤ max (recover N s.files).1 (s.checkpoint.getD 0) :=
    fun reading => bound_of_recoverable inv.bounded recoverable
  have raised : Inv N { s with
      highWatermark := max (recover N s.files).1 (s.checkpoint.getD 0) } := by
    refine ⟨inv.numbered, inv.bounded, fun _ => watermark, inv.working, inv.reserved, ?_, inv.good,
      inv.recovered, inv.doomed, inv.unloaded, inv.contents, inv.published, inv.timed⟩
    intro reading storing
    have storing : s.place = .storing reading := storing
    simp [place] at storing
  unfold Journal.load
  simp only
  split
  · refine ⟨inv.numbered, inv.bounded, fun _ => watermark, by simp [Place.busy], by simp, by simp,
      inv.good, ?_, by simp [Place.doomed], fun _ _ => inv.unloaded fresh (by simp [place]), inv.contents,
      inv.published, ?_⟩
    · rintro _ _ ⟨⟩
      exact recover_good s.files
    · intro session elapsed given
      exact inv.timed session elapsed (by rw [place]; exact given)
  · exact raised.keep (recover_good s.files) watermark (by simp [place, Place.pending])

omit [DecidableEq Session] in
theorem Inv.entered (inv : Inv N s) (idle : s.place = .idle) {call : Option (Session × ℕ × Value)}
    (timed : (Event.call call).Timed s) : Inv N { s with place := .entering call } := by
  refine ⟨inv.numbered, inv.bounded, ?_, by simp [Place.busy], by simp, by simp, inv.good, by simp,
    by simp [Place.doomed], fun unloaded _ => inv.unloaded unloaded (by simp [idle]), inv.contents,
    inv.published, ?_⟩
  · intro established
    exact inv.watermark (.inl (by simpa [Place.established] using established))
  · intro session elapsed given
    cases call with
    | none => cases given
    | some call =>
      obtain ⟨rfl, rfl⟩ := Prod.mk.inj (Option.some.inj given)
      exact timed

theorem Inv.goes (inv : Inv N s) (positive : 0 < N) {succeeds : Bool}
    (bounded : ∀ call, s.place = .entering call → s.loaded = false → s.Recoverable N)
    (h : s.go N M succeeds = some s') : Inv N s' := by
  unfold Journal.go at h
  split at h
  · cases h
  · rename_i call place
    obtain rfl := Option.some.inj h
    split
    · rename_i loaded
      exact inv.begin loaded succeeds (by simp [place, Place.pending])
    · rename_i fresh
      split
      · exact inv.load place (by simpa using fresh) (bounded call place (by simpa using fresh))
      · exact inv.idle (by simp [place])
  · rename_i call chunks place
    obtain rfl := Option.some.inj h
    split
    · have watermark := inv.watermark (.inr (by simp [place, Place.established]))
      have checked : Inv N { s with checkpoint := some s.highWatermark } :=
        ⟨inv.numbered, inv.bounded, inv.watermark, inv.working, inv.reserved, inv.storing, inv.good,
          inv.recovered, inv.doomed, inv.unloaded, inv.contents, inv.published, inv.timed⟩
      exact checked.keep (inv.recovered call chunks place) watermark
        (by simp [place, Place.pending])
    · exact inv.idle (by simp [place])
  · rename_i call place
    obtain rfl := Option.some.inj h
    have watermark := inv.watermark (.inr (by simp [place, Place.established]))
    have loaded : Inv N { s with loaded := true } := by
      refine ⟨inv.numbered, inv.bounded, fun _ => watermark, fun _ => rfl, inv.reserved,
        inv.storing, inv.good, inv.recovered, inv.doomed, ?_, inv.contents, inv.published,
        inv.timed⟩
      intro unloaded
      cases unloaded
    exact loaded.begin rfl succeeds (by simp [place, Place.pending])
  · rename_i call first rest place
    obtain rfl := Option.some.inj h
    exact inv.remove succeeds (by simp [place, Place.doomed]) (.inl ⟨call, place, rfl⟩)
  · rename_i reading place
    obtain rfl := Option.some.inj h
    have loaded := inv.working (by simp [place, Place.busy])
    obtain ⟨small, above⟩ := inv.reserved reading (.inl place)
    split
    · refine ⟨inv.numbered, inv.bounded, fun _ old member => (above old member).le,
        fun _ => loaded, ?_, ?_, inv.good, by simp, by simp [Place.doomed], ?_, inv.contents,
        inv.published, ?_⟩
      · rintro other (here | here)
        · cases here
        · obtain rfl := Place.storing.inj here
          exact ⟨small, above⟩
      · intro other here
        exact Place.storing.inj here ▸ rfl
      · intro unloaded
        have unloaded : s.loaded = false := unloaded
        rw [loaded] at unloaded
        cases unloaded
      · intro session elapsed given
        exact inv.timed session elapsed (by rw [place]; exact given)
    · exact inv.idle (by simp [place])
  · rename_i reading place
    obtain rfl := Option.some.inj h
    split
    · exact inv.store positive place
    · exact inv.idle (by simp [place])
  · rename_i place
    obtain rfl := Option.some.inj h
    exact inv.idle (by simp [place])
  · rename_i first rest place
    obtain rfl := Option.some.inj h
    exact inv.remove succeeds (by simp [place, Place.doomed]) (.inr ⟨place, rfl⟩)

theorem Inv.step (inv : Inv N s) (positive : 0 < N) {event : Event Session Value}
    (bounded : ∀ call, s.place = .entering call → s.loaded = false → s.Recoverable N)
    (timed : event.Timed s) (h : s.step N M event = some s') : Inv N s' := by
  cases event with
  | call call =>
    cases place : s.place <;> simp only [Journal.step, place, reduceCtorEq] at h
    obtain rfl := Option.some.inj h
    exact inv.entered place timed
  | go succeeds => exact inv.goes positive bounded h
  | die =>
    obtain rfl := Option.some.inj h
    refine ⟨inv.numbered, inv.bounded, by simp [Journal.dead, Place.established],
      by simp [Journal.dead, Place.busy], by simp [Journal.dead], by simp [Journal.dead],
      .nil s.files, by simp [Journal.dead], by simp [Journal.dead], by simp [Journal.dead],
      inv.contents, inv.published, by simp [Journal.dead, Place.pending]⟩
  | damage first =>
    cases place : s.place <;> simp only [Journal.step, place, reduceCtorEq] at h
    split at h
    · cases h
    · rename_i fresh
      obtain rfl := Option.some.inj h
      have none := inv.unloaded (by simpa using fresh) (by simp [place])
      have base := inv.idle (by simp [place])
      refine ⟨base.numbered, base.bounded, base.watermark, base.working, base.reserved,
        base.storing, ?_, by simp, base.doomed, base.unloaded, ?_, base.published, base.timed⟩
      · exact none ▸ .nil _
      · intro file member readings content
        obtain ⟨other, among, same⟩ := List.mem_map.mp member
        split at same
        · rw [← same] at content
          cases content
        · exact inv.contents file (same ▸ among) readings content
  | damageCheckpoint content =>
    cases place : s.place <;> simp only [Journal.step, place, reduceCtorEq] at h
    split at h
    · cases h
    · obtain rfl := Option.some.inj h
      have base := inv.idle (by simp [place])
      exact ⟨base.numbered, base.bounded, base.watermark, base.working, base.reserved,
        base.storing, base.good, base.recovered, base.doomed, base.unloaded, base.contents,
        base.published, base.timed⟩

structure Sound (N M : ℕ) (s : Journal Session Value) : Prop where
  /-- No two stored rows have one number. -/
  unique : s.stored.Pairwise fun a b => a.sequence < b.sequence
  published : ∀ reading ∈ s.published, reading ∈ s.stored
  given : ∀ reading, s.place = .reserving reading ∨ s.place = .storing reading →
    ∀ old ∈ s.stored, old.sequence < reading.sequence
  above : s.chunks.Pairwise fun a b => a.last < b.first
  onDisk : ∀ chunk ∈ s.chunks, ∃ file ∈ s.files, file.first = chunk.first ∧
    readChunk N file = some chunk
  /-- Whatever throws, or fails to be deleted, leaves memory and disk as they are. -/
  still : ∀ s', s.go N M false = some s' → s'.chunks = s.chunks ∧ s'.files = s.files

omit [DecidableEq Session] in
theorem begin_still (s : Journal Session Value) (call : Option (Session × ℕ × Value))
    (valid : Bool) : (s.begin call valid).chunks = s.chunks ∧
      (s.begin call valid).files = s.files := by
  unfold Journal.begin
  split
  · exact ⟨rfl, rfl⟩
  · split <;> exact ⟨rfl, rfl⟩

theorem still_of_go (h : s.go N M false = some s') :
    s'.chunks = s.chunks ∧ s'.files = s.files := by
  unfold Journal.go at h
  split at h
  · cases h
  · obtain rfl := Option.some.inj h
    split
    · exact begin_still s _ false
    · exact ⟨rfl, rfl⟩
  · obtain rfl := Option.some.inj h
    exact ⟨rfl, rfl⟩
  · obtain rfl := Option.some.inj h
    exact begin_still { s with loaded := true } _ false
  all_goals
    obtain rfl := Option.some.inj h
    exact ⟨rfl, rfl⟩

theorem Inv.of_run (positive : 0 < N)
    (run : ReflTransGen (BoundedStep N M) (.fresh : Journal Session Value) s) : Inv N s := by
  induction run with
  | refl => exact .fresh
  | tail _ step ih =>
    obtain ⟨bounded, event, timed, h⟩ := step
    exact ih.step positive bounded timed h

theorem Inv.sound (inv : Inv N s) : Sound N M s := by
  refine ⟨inv.numbered, inv.published, fun reading given => (inv.reserved reading given).2,
    inv.good.above, fun chunk member => ?_, fun _ => still_of_go⟩
  exact ⟨_, inv.good.onDisk chunk member, rfl,
    readChunk_of_readable (inv.good.readable chunk member)⟩

open Follow

def Journal.Reused (s : Journal ℕ ℕ) : Prop :=
  ∃ old ∈ s.stored, ∃ new ∈ s.stored, old.sequence = new.sequence ∧ old.value ≠ new.value

end DashcamStats.Temperature
