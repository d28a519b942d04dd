import GameFleet.Console.Exchange
import GameFleet.Proofs.Console.Stream

/-!
# How a conversation with a console ends (specification §2, RCON health probe)

The server may say anything. Which of its packets count is decided by the first verdict among them
and by the first packet behind it that has the number of the client's last. A client that comes to a
packet which it cannot write breaks off there.

- `First`: the first of a list that is of some kind, and what stands before and behind it.
- `Exchange.transcript`: what the packets of a server say of the command.
- `awaitVerdict_of_reads`, `gather_of_reads`: what is passed over, and what is gathered.
- `query_of_writable`, `query_of_not_writable`: whether a client comes to the end.
- `exchange_outcome`: the theorem.
-/

namespace GameFleet.Console

/-- The first of a list that is of some kind, and what stands before and behind it. -/
structure First {α : Type} (P : α → Prop) (xs before : List α) (x : α) (after : List α) : Prop where
  eq : xs = before ++ x :: after
  of_mem : ∀ y ∈ before, ¬P y
  holds : P x

namespace Packet

/-- The packet tells what becomes of the password. -/
def IsVerdict (p : Packet) : Prop := p.kind = Exchange.verdictKind

/-- The packet answers the client's last. -/
def IsEnd (p : Packet) : Prop := p.id = Exchange.endId

/-- The packet can be written. -/
def IsWritable (p : Packet) : Prop := p.encode?.isSome = true

instance (p : Packet) : Decidable p.IsWritable :=
  inferInstanceAs (Decidable (p.encode?.isSome = true))

/-- Of the packets the length of whose body has 32 bits, those with the ten greatest lengths cannot
be written. -/
theorem isWritable_iff {p : Packet} (h : (Utf8.encodeText p.body).length < 0x80000000) :
    p.IsWritable ↔ (Utf8.encodeText p.body).length + 10 < 0x80000000 := by
  constructor
  · refine fun hw => Nat.lt_of_not_le fun hlong => ?_
    rw [IsWritable, encode?_eq_none hlong h] at hw
    cases hw
  · intro hlength
    rw [IsWritable, encode?_eq_some hlength]
    rfl

end Packet

open Packet

namespace Exchange

variable {stream rest after : List UInt8} {p q : Packet} {ps before between : List Packet}
  {ending : Ending} {e : ReadError} {t : String}

/-- What a server says of the command, a piece of it. -/
def answerPacket (text : String) : Packet := ⟨commandId, answerKind, text⟩

theorem answerPacket_fits {text : String} (h : (Utf8.encodeText text).length ≤ 65526)
    (hending : text.toList.getLast? ≠ some '\x00') : (answerPacket text).Fits := by
  have hid : IsWord commandId := ⟨by decide, by decide⟩
  have hkind : IsWord answerKind := ⟨by decide, by decide⟩
  refine ⟨hid, hkind, ?_, hending⟩
  show ((Utf8.encodeText text).length : Int) + 10 ≤ 65536
  omega

/-- What packets say of the command, one after another. -/
def transcript (ps : List Packet) : String :=
  String.join ((ps.filter fun p => p.id = commandId ∧ p.kind = answerKind).map Packet.body)

theorem transcript_answers (chunks : List String) :
    transcript (chunks.map answerPacket) = String.join chunks := by
  have hall : (chunks.map answerPacket).filter (fun p => p.id = commandId ∧ p.kind = answerKind) =
      chunks.map answerPacket := by
    refine List.filter_eq_self.mpr fun p hp => ?_
    obtain ⟨chunk, -, rfl⟩ := List.mem_map.mp hp
    rfl
  rw [transcript, hall, List.map_map]
  exact congrArg String.join (List.map_id chunks)

/-- A server that leaves ends the client's wait. -/
theorem readError_closed (e : ReadError) : readError .closed e = .unreadable e := by
  cases e <;> rfl

/-! ### Waiting for the verdict -/

theorem awaitVerdict_of_error (h : read stream = .error e) :
    awaitVerdict ending stream = .error (readError ending e, leftBy stream e) := by
  rw [awaitVerdict]
  split <;> simp_all

theorem awaitVerdict_of_ok (h : read stream = .ok (p, rest)) :
    awaitVerdict ending stream = if p.kind ≠ verdictKind then awaitVerdict ending rest
      else if p.id = refusedId then .error (.rejected, rest) else .ok rest := by
  rw [awaitVerdict]
  split <;> simp_all

/-- Packets that are no verdict are passed over. -/
theorem awaitVerdict_of_reads (h : Reads stream ps rest) (hps : ∀ p ∈ ps, ¬p.IsVerdict) :
    awaitVerdict ending stream = awaitVerdict ending rest := by
  induction h with
  | nil stream => rfl
  | cons hp _ ih =>
    have hkind := hps _ List.mem_cons_self
    unfold IsVerdict at hkind
    rw [awaitVerdict_of_ok hp, if_pos hkind]
    exact ih fun q hq => hps q (List.mem_cons_of_mem _ hq)

/-! ### Gathering the answer -/

theorem gather_of_error (h : read stream = .error e) :
    gather ending t stream = (.error (readError ending e), leftBy stream e) := by
  rw [gather]
  split <;> simp_all

theorem gather_of_ok (h : read stream = .ok (p, rest)) :
    gather ending t stream = if p.id = endId then (.ok t, rest)
      else if p.id = commandId ∧ p.kind = answerKind then gather ending (t ++ p.body) rest
      else gather ending t rest := by
  rw [gather]
  split <;> simp_all

/-- Packets before the last are gathered in order, as far as they belong to the answer. -/
theorem gather_of_reads (h : Reads stream ps rest) (hps : ∀ p ∈ ps, ¬p.IsEnd) :
    gather ending t stream = gather ending (t ++ transcript ps) rest := by
  induction h generalizing t with
  | nil stream =>
    show gather ending t stream = gather ending (t ++ "") stream
    rw [String.append_empty]
  | @cons stream after rest p ps hp _ ih =>
    have hrest := fun {t} => ih (t := t) fun q hq => hps q (List.mem_cons_of_mem p hq)
    have hid := hps p List.mem_cons_self
    unfold IsEnd at hid
    rw [gather_of_ok hp, if_neg hid]
    split
    · rename_i hanswer
      have hcons : transcript (p :: ps) = p.body ++ transcript ps := by
        rw [transcript, List.filter_cons_of_pos (by simpa using hanswer), List.map_cons,
          String.join_cons]
        rfl
      rw [hrest, hcons, String.append_assoc]
    · rename_i hother
      have hcons : transcript (p :: ps) = transcript ps := by
        rw [transcript, List.filter_cons_of_neg (by simpa using hother)]
        rfl
      rw [hrest, hcons]

end Exchange

open Exchange

variable {password command : String} {stream rest after : List UInt8} {p q : Packet}
  {before between : List Packet} {ending : Ending} {e : ReadError}

/-! ### The whole conversation -/

theorem exchange_of_error {x : ExchangeError} (h : awaitVerdict ending stream = .error (x, rest)) :
    exchange password command stream ending = ⟨.error x, [authPacket password], rest⟩ := by
  rw [exchange, h]

theorem exchange_of_ok (h : awaitVerdict ending stream = .ok rest) :
    exchange password command stream ending = ⟨(gather ending "" rest).1,
      [authPacket password, commandPacket command, endPacket], (gather ending "" rest).2⟩ := by
  rw [exchange, h]

/-- The password is sent first. -/
theorem exists_sent (password command : String) (stream : List UInt8) (ending : Ending) :
    ∃ later, (exchange password command stream ending).sent = authPacket password :: later := by
  unfold exchange
  split
  · exact ⟨[], rfl⟩
  · exact ⟨[commandPacket command, endPacket], rfl⟩

/-- A client that can write its packets comes to the end. -/
theorem query_of_writable
    (h : ∀ p ∈ (exchange password command stream ending).sent, p.IsWritable) :
    query password command stream ending =
      .ended (exchange password command stream ending) :=
  if_pos (List.all_eq_true.mpr h)

/-- A client breaks off at the first packet that it cannot write. -/
theorem query_of_not_writable {earlier later : List Packet}
    (h : (exchange password command stream ending).sent = earlier ++ p :: later)
    (hearlier : ∀ q ∈ earlier, q.IsWritable) (hp : ¬p.IsWritable) :
    query password command stream ending = .brokeOff earlier := by
  have hall : (earlier ++ p :: later).all (fun q => q.encode?.isSome) = false := by
    refine List.all_eq_false.mpr ⟨p, ?_, hp⟩
    exact List.mem_append_right _ List.mem_cons_self
  have hwritten : (earlier ++ p :: later).takeWhile (fun q => q.encode?.isSome) = earlier := by
    rw [List.takeWhile_append_of_pos hearlier,
      List.takeWhile_cons_of_neg (p := fun q : Packet => q.encode?.isSome) hp, List.append_nil]
  unfold query
  dsimp only
  rw [h, hall, if_neg Bool.false_ne_true, hwritten]

theorem isWritable_endPacket : endPacket.IsWritable := by decide

/-- A client can write all its packets when it can write the password and the command. -/
theorem forall_isWritable (hauth : (authPacket password).IsWritable)
    (hcommand : (commandPacket command).IsWritable) :
    ∀ p ∈ [authPacket password, commandPacket command, endPacket], p.IsWritable := by
  simp only [List.forall_mem_cons, List.not_mem_nil]
  exact ⟨hauth, hcommand, isWritable_endPacket, nofun⟩

/-- A server that never gives a verdict. -/
theorem exchange_of_unanswered {ps : List Packet} (h : Reads stream ps rest)
    (he : read rest = .error e) (hps : ∀ p ∈ ps, ¬p.IsVerdict) :
    exchange password command stream ending =
      ⟨.error (readError ending e), [authPacket password], leftBy rest e⟩ := by
  refine exchange_of_error ?_
  rw [awaitVerdict_of_reads h hps, awaitVerdict_of_error he]

/-- A server whose first verdict refuses the password. -/
theorem exchange_of_refused (h : Reads stream before rest) (hbefore : ∀ q ∈ before, ¬q.IsVerdict)
    (hp : read rest = .ok (p, after)) (hverdict : p.IsVerdict) (hid : p.id = refusedId) :
    exchange password command stream ending = ⟨.error .rejected, [authPacket password], after⟩ := by
  refine exchange_of_error ?_
  unfold IsVerdict at hverdict
  rw [awaitVerdict_of_reads h hbefore, awaitVerdict_of_ok hp, if_neg (not_not_intro hverdict),
    if_pos hid]

/-- A server whose first verdict accepts the password. -/
theorem exchange_of_accepted (h : Reads stream before rest) (hbefore : ∀ q ∈ before, ¬q.IsVerdict)
    (hp : read rest = .ok (p, after)) (hverdict : p.IsVerdict) (hid : p.id ≠ refusedId) :
    exchange password command stream ending = ⟨(gather ending "" after).1,
      [authPacket password, commandPacket command, endPacket], (gather ending "" after).2⟩ := by
  refine exchange_of_ok ?_
  unfold IsVerdict at hverdict
  rw [awaitVerdict_of_reads h hbefore, awaitVerdict_of_ok hp, if_neg (not_not_intro hverdict),
    if_neg hid]

/-- A server that accepts the password, and never answers the client's last. -/
theorem exchange_of_unfinished {ps : List Packet} {behind : List UInt8}
    (h : Reads stream before rest) (hbefore : ∀ q ∈ before, ¬q.IsVerdict)
    (hp : read rest = .ok (p, after)) (hverdict : p.IsVerdict) (hid : p.id ≠ refusedId)
    (hafter : Reads after ps behind) (he : read behind = .error e) (hps : ∀ q ∈ ps, ¬q.IsEnd) :
    (exchange password command stream ending).result = .error (readError ending e) := by
  rw [exchange_of_accepted h hbefore hp hverdict hid]
  show (gather ending "" after).1 = _
  rw [gather_of_reads hafter hps, gather_of_error he]

/-- The packets of a server that count: those up to its first verdict, which accepts the password,
and those up to the first that answers the client's last. -/
structure Counts (stream : List UInt8) (before : List Packet) (p : Packet) (between : List Packet)
    (q : Packet) (rest : List UInt8) : Prop where
  reads : Reads stream (before ++ p :: between ++ [q]) rest
  before : ∀ r ∈ before, ¬r.IsVerdict
  verdict : p.IsVerdict
  accepts : p.id ≠ refusedId
  between : ∀ r ∈ between, ¬r.IsEnd
  last : q.IsEnd

/-- The answer is what the packets between those two say of the command, and what is behind them is
left unread. -/
theorem Counts.exchange_eq (h : Counts stream before p between q rest) :
    exchange password command stream ending = ⟨.ok (transcript between),
      [authPacket password, commandPacket command, endPacket], rest⟩ := by
  obtain ⟨toLast, hreads, hlast⟩ := h.reads.of_append
  obtain ⟨toVerdict, hbefore, hreads⟩ := hreads.of_append
  cases hreads with
  | cons hp hbetween =>
    cases hlast with
    | cons hq hnil =>
      cases hnil
      have hid := h.last
      unfold IsEnd at hid
      rw [exchange_of_accepted hbefore h.before hp h.verdict h.accepts,
        gather_of_reads hbetween h.between, gather_of_ok hq, if_pos hid, String.empty_append]

theorem Counts.query_eq (h : Counts stream before p between q rest)
    (hauth : (authPacket password).IsWritable) (hcommand : (commandPacket command).IsWritable) :
    query password command stream ending = .ended ⟨.ok (transcript between),
      [authPacket password, commandPacket command, endPacket], rest⟩ := by
  rw [query_of_writable, h.exchange_eq]
  rw [h.exchange_eq]
  exact forall_isWritable hauth hcommand

/-- What is behind the packets that count makes no difference to them. -/
theorem Counts.exists_front (h : Counts stream before p between q rest) :
    ∃ front, stream = front ++ rest ∧ (readAll front).1 = before ++ p :: between ++ [q] ∧
      ∀ back, Counts (front ++ back) before p between q back := by
  obtain ⟨front, hfront, hread⟩ := h.reads.exists_front
  refine ⟨front, hfront, ?_, fun back => { h with reads := hread back }⟩
  have hnothing := hread []
  rw [List.append_nil] at hnothing
  rw [hnothing.readAll_eq (e := .noSize) rfl]

/-- All packets count that a server sends whose text is in pieces. -/
theorem counts_pieces {opening : List Packet} {verdict last : Packet} {chunks : List String}
    {back : List UInt8} (hopening : ∀ p ∈ opening, p.Fits ∧ ¬p.IsVerdict) (hfits : verdict.Fits)
    (hverdict : verdict.IsVerdict) (hid : verdict.id ≠ refusedId)
    (hchunks : ∀ chunk ∈ chunks, (Utf8.encodeText chunk).length ≤ 65526 ∧
      chunk.toList.getLast? ≠ some '\x00') (hlast : last.Fits) (hend : last.IsEnd) :
    Counts ((opening ++ verdict :: chunks.map answerPacket ++ [last]).flatMap encode ++ back)
      opening verdict (chunks.map answerPacket) last back := by
  have hall : ∀ p ∈ opening ++ verdict :: chunks.map answerPacket ++ [last], p.Fits := by
    intro p hp
    simp only [List.mem_append, List.mem_cons, List.mem_map, List.not_mem_nil, or_false] at hp
    obtain (hp | rfl | ⟨chunk, hchunk, rfl⟩) | rfl := hp
    · exact (hopening p hp).1
    · exact hfits
    · exact answerPacket_fits (hchunks chunk hchunk).1 (hchunks chunk hchunk).2
    · exact hlast
  refine ⟨reads_flatMap_encode hall back, fun p hp => (hopening p hp).2, hverdict, hid, ?_, hend⟩
  intro p hp
  obtain ⟨chunk, -, rfl⟩ := List.mem_map.mp hp
  exact nofun

end GameFleet.Console
