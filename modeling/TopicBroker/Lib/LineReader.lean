import Mathlib.Data.List.Basic
import TopicBroker.Lib.Loops

/-!
# Reading lines into a buffer

A reader takes a line from the front of a stream, its terminator included, but
not more than it has room for; what is left of the line is read by the next
calls. A stream of lines is read line by line exactly when each of them fits.
-/

namespace TopicBroker

universe u v w

variable {α : Type u} {σ : Type v}

/-- The front of the stream up to the first terminator. -/
def firstLine (ends : α → Bool) : List α → List α
  | [] => []
  | first :: rest => if ends first then [first] else first :: firstLine ends rest

/-- What one call reads. -/
def chunk (ends : α → Bool) (room : Nat) (stream : List α) : List α :=
  (firstLine ends stream).take room

/-- What one call leaves. -/
def unread (ends : α → Bool) (room : Nat) (stream : List α) : List α :=
  stream.drop (chunk ends room stream).length

/-- The stream is read in the given chunks. -/
inductive Chunks (ends : α → Bool) (room : Nat) : List α → List (List α) → Prop where
  | done : Chunks ends room [] []
  | next {stream : List α} {chunks : List (List α)} (more : stream ≠ [])
      (later : Chunks ends room (unread ends room stream) chunks) :
      Chunks ends room stream (chunk ends room stream :: chunks)

variable {ends : α → Bool} {room : Nat}

section Line

variable {line : List α} {terminator : α} (clear : ∀ x ∈ line, ends x = false)
  (found : ends terminator = true) (stream : List α)

include clear found

theorem firstLine_line :
    firstLine ends (line ++ terminator :: stream) = line ++ [terminator] := by
  induction line with
  | nil => exact if_pos found
  | cons first line ih =>
      have here : ends first = false := clear first List.mem_cons_self
      rw [List.cons_append, firstLine, here, if_neg Bool.false_ne_true,
        ih fun x member => clear x (List.mem_cons_of_mem _ member)]
      rfl

/-- A line that fits is read as a whole. -/
theorem chunk_fits (fits : line.length < room) :
    chunk ends room (line ++ terminator :: stream) = line ++ [terminator] := by
  rw [chunk, firstLine_line clear found]
  apply List.take_of_length_le
  rw [List.length_append, List.length_singleton]
  exact fits

theorem unread_fits (fits : line.length < room) :
    unread ends room (line ++ terminator :: stream) = stream := by
  have parts : line ++ terminator :: stream = (line ++ [terminator]) ++ stream :=
    List.append_cons line terminator stream
  rw [unread, chunk_fits clear found stream fits, parts, List.drop_left]

/-- A line that does not fit is read until the room is used up. -/
theorem chunk_long (long : room ≤ line.length) :
    chunk ends room (line ++ terminator :: stream) = line.take room := by
  rw [chunk, firstLine_line clear found, List.take_append_of_le_length long]

theorem unread_long (long : room ≤ line.length) :
    unread ends room (line ++ terminator :: stream) = line.drop room ++ terminator :: stream := by
  rw [unread, chunk_long clear found stream long, List.length_take, Nat.min_eq_left long,
    List.drop_append_of_le_length long]

end Line

/-- A call on a stream that has not ended takes something from it. -/
theorem chunk_ne_nil (ends : α → Bool) {stream : List α} (positive : 0 < room)
    (more : stream ≠ []) : chunk ends room stream ≠ [] := by
  obtain ⟨first, rest, rfl⟩ := List.exists_cons_of_ne_nil more
  apply List.ne_nil_of_length_pos
  rw [chunk, List.length_take, firstLine]
  split
  · exact Nat.lt_min.mpr ⟨positive, Nat.one_pos⟩
  · exact Nat.lt_min.mpr ⟨positive, Nat.succ_pos _⟩

theorem unread_length_lt (ends : α → Bool) {stream : List α} (positive : 0 < room)
    (more : stream ≠ []) : (unread ends room stream).length < stream.length := by
  have taken := List.length_pos_of_ne_nil (chunk_ne_nil ends positive more)
  have some_left := List.length_pos_of_ne_nil more
  rw [unread, List.length_drop]
  omega

theorem chunk_length_le (ends : α → Bool) (room : Nat) (stream : List α) :
    (chunk ends room stream).length ≤ room := List.length_take_le _ _

/-! ## A stream of lines -/

/-- A line is read in at least one chunk, and in one exactly when it fits. -/
theorem Chunks.line {terminator : α} (positive : 0 < room) (found : ends terminator = true)
    {line stream : List α} (clear : ∀ x ∈ line, ends x = false) {chunks : List (List α)}
    (read : Chunks ends room (line ++ terminator :: stream) chunks) :
    ∃ front back, chunks = front ++ back ∧ Chunks ends room stream back ∧
      ((line.length < room ∧ front = [line ++ [terminator]]) ∨
        (room ≤ line.length ∧ 1 < front.length)) := by
  generalize size : line.length = count
  induction count using Nat.strongRecOn generalizing line chunks with
  | ind count shorter =>
      generalize text : line ++ terminator :: stream = typed at read
      cases read with
      | done => simp at text
      | next more later =>
          subst text
          by_cases fits : line.length < room
          · rw [unread_fits clear found stream fits] at later
            rw [chunk_fits clear found stream fits]
            exact ⟨[line ++ [terminator]], _, rfl, later, .inl ⟨size ▸ fits, rfl⟩⟩
          · have long := Nat.le_of_not_lt fits
            rw [unread_long clear found stream long] at later
            have less : (line.drop room).length < count := by
              rw [List.length_drop]
              omega
            obtain ⟨front, back, rfl, rest, pieces⟩ := shorter _ less
              (fun x member => clear x (List.mem_of_mem_drop member)) later rfl
            refine ⟨chunk ends room (line ++ terminator :: stream) :: front, back, rfl, rest,
              .inr ⟨size ▸ long, ?_⟩⟩
            rw [List.length_cons]
            rcases pieces with ⟨_, rfl⟩ | ⟨_, several⟩
            · exact Nat.lt_succ_self 1
            · omega

/-- There are as many chunks as lines only when every line fits, and then the
chunks are the lines. -/
theorem Chunks.lines {terminator : α} (positive : 0 < room) (found : ends terminator = true)
    {lines : List (List α)} (clear : ∀ line ∈ lines, ∀ x ∈ line, ends x = false)
    {chunks : List (List α)}
    (read : Chunks ends room (lines.flatMap (· ++ [terminator])) chunks) :
    lines.length ≤ chunks.length ∧
      (chunks.length = lines.length → ∀ line ∈ lines, line.length < room) ∧
      ((∀ line ∈ lines, line.length < room) → chunks = lines.map (· ++ [terminator])) := by
  induction lines generalizing chunks with
  | nil =>
      cases read with
      | done => exact ⟨Nat.le_refl 0, fun _ line absent => absurd absent List.not_mem_nil,
          fun _ => rfl⟩
      | next more _ => exact absurd rfl more
  | cons line lines ih =>
      rw [List.flatMap_cons, List.append_assoc, List.singleton_append] at read
      obtain ⟨front, back, rfl, rest, pieces⟩ :=
        Chunks.line positive found (clear line List.mem_cons_self) read
      obtain ⟨enough, exact_count, whole⟩ :=
        ih (fun other member => clear other (List.mem_cons_of_mem _ member)) rest
      rw [List.length_append, List.length_cons]
      rcases pieces with ⟨fits, rfl⟩ | ⟨long, several⟩
      · rw [List.length_singleton]
        refine ⟨by omega, ?_, ?_⟩
        · intro same other member
          rcases List.mem_cons.mp member with rfl | behind
          · exact fits
          · exact exact_count (by omega) other behind
        · intro all_fit
          rw [whole fun other member => all_fit other (List.mem_cons_of_mem _ member)]
          rfl
      · refine ⟨by omega, fun same => absurd same (by omega), ?_⟩
        intro all_fit
        exact absurd (all_fit line List.mem_cons_self) (Nat.not_lt_of_le long)

/-! ## A loop that reads -/

section Reader

variable {loop : Loop σ} {I : σ → Prop} {stream : σ → List α}
  (goes : ∀ s, loop.guard s ↔ stream s ≠ []) (kept : ∀ s, I s → loop.guard s → I (loop.body s))
  (reads : ∀ s, I s → loop.guard s → stream (loop.body s) = unread ends room (stream s))

include goes kept reads

/-- A loop that reads until the stream has ended comes to an end. -/
theorem reader_exits (positive : 0 < room) {first : σ} (start : I first) :
    ∃ passed last, loop.Exits first passed last := by
  have spent : ∀ s, I s ∧ (stream s).length ≤ 0 → ¬ loop.guard s := by
    rintro s ⟨_, nothing⟩ more
    exact (goes s).mp more (List.length_eq_zero_iff.mp (Nat.le_zero.mp nothing))
  have lowered : ∀ rounds s, I s ∧ (stream s).length ≤ rounds + 1 → loop.guard s →
      I (loop.body s) ∧ (stream (loop.body s)).length ≤ rounds := by
    rintro rounds s ⟨holds, left⟩ more
    have shorter := unread_length_lt ends positive ((goes s).mp more)
    rw [reads s holds more]
    exact ⟨kept s holds more, by omega⟩
  obtain ⟨passed, last, exits, _⟩ := Loop.exits_within
    (fun rounds s => I s ∧ (stream s).length ≤ rounds) spent lowered ⟨start, Nat.le_refl _⟩
  exact ⟨passed, last, exits⟩

/-- What its calls read are the chunks of the stream. -/
theorem Chunks.of_exits {first last : σ} {passed : List σ} (start : I first)
    (exits : loop.Exits first passed last) :
    Chunks ends room (stream first) (passed.map fun s => chunk ends room (stream s)) := by
  induction exits with
  | leave s ended =>
      rw [not_not.mp fun more => ended ((goes s).mpr more)]
      exact .done
  | round s more rest ih =>
      have later := ih (kept s start more)
      rw [reads s start more] at later
      exact .next ((goes s).mp more) later

/-- Where every line fits, the loop passes through the lines one by one. -/
theorem reader_lines {terminator : α} (positive : 0 < room) (found : ends terminator = true)
    {lines : List (List α)} (clear : ∀ line ∈ lines, ∀ x ∈ line, ends x = false)
    (fit : ∀ line ∈ lines, line.length < room) {first last : σ} {passed : List σ} (start : I first)
    (typed : stream first = lines.flatMap (· ++ [terminator]))
    (exits : loop.Exits first passed last) :
    passed.map (fun s => chunk ends room (stream s)) = lines.map (· ++ [terminator]) := by
  have read := Chunks.of_exits goes kept reads start exits
  rw [typed] at read
  exact (read.lines positive found clear).2.2 fit

/-- Then each of its calls reads one of the lines. -/
theorem reader_reads {terminator : α} (positive : 0 < room) (found : ends terminator = true)
    {lines : List (List α)} (clear : ∀ line ∈ lines, ∀ x ∈ line, ends x = false)
    (fit : ∀ line ∈ lines, line.length < room) {first last : σ} {passed : List σ} (start : I first)
    (typed : stream first = lines.flatMap (· ++ [terminator]))
    (exits : loop.Exits first passed last) {s : σ} (member : s ∈ passed) :
    I s ∧ loop.guard s ∧ ∃ line ∈ lines, chunk ends room (stream s) = line ++ [terminator] := by
  obtain ⟨holds, more⟩ := (exits.invariant start kept).1 s member
  have whole := reader_lines goes kept reads positive found clear fit start typed exits
  have read : chunk ends room (stream s) ∈ lines.map (· ++ [terminator]) := by
    rw [← whole]
    exact List.mem_map_of_mem member
  obtain ⟨line, among, same⟩ := List.mem_map.mp read
  exact ⟨holds, more, line, among, same.symm⟩

/-- A decision for each call is the wanted one for each line exactly when every
line fits and is judged as wanted. -/
theorem reader_decisions_iff {β : Type w} {decided : σ → β} (judged wanted : List α → β)
    {terminator : α} (positive : 0 < room) (found : ends terminator = true)
    {lines : List (List α)} (clear : ∀ line ∈ lines, ∀ x ∈ line, ends x = false)
    (agree : ∀ s, I s → loop.guard s → ∀ line ∈ lines,
      chunk ends room (stream s) = line ++ [terminator] → decided s = judged (line ++ [terminator]))
    {first last : σ} {passed : List σ} (start : I first)
    (typed : stream first = lines.flatMap (· ++ [terminator]))
    (exits : loop.Exits first passed last) :
    passed.map decided = lines.map wanted ↔
      ∀ line ∈ lines, line.length < room ∧ judged (line ++ [terminator]) = wanted line := by
  have judgement : (∀ line ∈ lines, line.length < room) →
      passed.map decided = lines.map fun line => judged (line ++ [terminator]) := by
    intro fit
    have whole := reader_lines goes kept reads positive found clear fit start typed exits
    calc passed.map decided
        = (passed.map fun s => chunk ends room (stream s)).map judged := by
          rw [List.map_map]
          apply List.map_congr_left
          intro s member
          obtain ⟨holds, more, line, among, same⟩ :=
            reader_reads goes kept reads positive found clear fit start typed exits member
          rw [Function.comp_apply, same]
          exact agree s holds more line among same
      _ = lines.map fun line => judged (line ++ [terminator]) := by
          rw [whole, List.map_map]
          rfl
  constructor
  · intro same
    have counted : passed.length = lines.length := by
      simpa only [List.length_map] using congrArg List.length same
    have read := Chunks.of_exits goes kept reads start exits
    rw [typed] at read
    have fit := (read.lines positive found clear).2.1 (by rw [List.length_map, counted])
    rw [judgement fit] at same
    intro line member
    exact ⟨fit line member, List.map_inj_left.mp same line member⟩
  · intro each
    rw [judgement fun line member => (each line member).1]
    exact List.map_congr_left fun line member => (each line member).2

end Reader

end TopicBroker
