/-
# Theory.Framing — items out of a stream that arrives in chunks

A decoder looks at the bytes that have arrived: it takes an item off the front,
needs more, or finds that they are no item whatever follows.  `Lawful` says that
its answers stand when more arrives, that an item takes something, and that what
it says it needs is needed.

For a lawful decoder the items of a stream, and where it fails, do not depend on
the chunks in which the stream arrived (`feedAll_eq`).
-/
import Mathlib.Tactic.TypeStar

namespace InverterGateway.Theory

set_option autoImplicit false

/-- What a decoder says of the bytes that have arrived. -/
inductive Verdict (β ε α : Type) where
  | more (needed : Nat)
  | item (a : α) (rest : List β)
  | bad (e : ε)

/-- The state of a stream: bytes that wait for more, or an error. -/
inductive Feed (β ε : Type) where
  | waiting (buffer : List β)
  | failed (e : ε)

namespace Framing

variable {β ε α : Type} (decode : List β → Verdict β ε α)

structure Lawful : Prop where
  item : ∀ {b a rest} (x : List β), decode b = .item a rest → decode (b ++ x) = .item a (rest ++ x)
  bad : ∀ {b e} (x : List β), decode b = .bad e → decode (b ++ x) = .bad e
  takes : ∀ {b a rest}, decode b = .item a rest → rest.length < b.length
  needs : ∀ {b n}, decode b = .more n → 0 < n ∧
    ∀ x : List β, x.length < n → ∃ m, decode (b ++ x) = .more m

/-- `drain` with a bound on the number of items. -/
def drainUpTo : Nat → List β → List α × Feed β ε
  | 0, b => ([], .waiting b)
  | n + 1, b =>
      match decode b with
      | .more _ => ([], .waiting b)
      | .bad e => ([], .failed e)
      | .item a rest => (a :: (drainUpTo n rest).1, (drainUpTo n rest).2)

/-- Take items off the front until the rest is none. -/
def drain (b : List β) : List α × Feed β ε := drainUpTo decode (b.length + 1) b

/-- The items that a chunk completes. -/
def feed (chunk : List β) : Feed β ε → List α × Feed β ε
  | .waiting buffer => drain decode (buffer ++ chunk)
  | .failed e => ([], .failed e)

/-- The items of a stream of chunks. -/
def feedAll : List (List β) → Feed β ε → List α × Feed β ε
  | [], s => ([], s)
  | chunk :: rest, s =>
      ((feed decode chunk s).1 ++ (feedAll rest (feed decode chunk s).2).1,
        (feedAll rest (feed decode chunk s).2).2)

variable {decode}

theorem drainUpTo_more {b : List β} {n k : Nat} (starved : decode b = .more n) :
    drainUpTo decode k b = ([], .waiting b) := by
  cases k with
  | zero => rfl
  | succ k => rw [drainUpTo, starved]

/-- A bound above the number of bytes is no bound. -/
theorem drainUpTo_eq (lawful : Lawful decode) {b : List β} {n : Nat} (enough : b.length < n) :
    drainUpTo decode n b = drain decode b := by
  have general : ∀ (n m : Nat) (b : List β), b.length < n → b.length < m →
      drainUpTo decode n b = drainUpTo decode m b := by
    intro n
    induction n with
    | zero => exact fun m b none => absurd none (Nat.not_lt_zero _)
    | succ n ih =>
        intro m b enough enough'
        cases m with
        | zero => exact absurd enough' (Nat.not_lt_zero _)
        | succ m =>
            rw [drainUpTo, drainUpTo]
            cases verdict : decode b with
            | more k => rfl
            | bad e => rfl
            | item a rest =>
                have fewer := lawful.takes verdict
                dsimp only
                rw [ih m rest (by omega) (by omega)]
  exact general n _ b enough (Nat.lt_succ_self _)

theorem drain_more {b : List β} {n : Nat} (starved : decode b = .more n) :
    drain decode b = ([], .waiting b) := drainUpTo_more starved

theorem drain_bad {b : List β} {e : ε} (spoilt : decode b = .bad e) :
    drain decode b = ([], .failed e) := by
  rw [drain, drainUpTo, spoilt]

theorem drain_item (lawful : Lawful decode) {b rest : List β} {a : α}
    (first : decode b = .item a rest) :
    drain decode b = (a :: (drain decode rest).1, (drain decode rest).2) := by
  have fewer := lawful.takes first
  rw [drain, drainUpTo, first]
  dsimp only
  rw [drainUpTo_eq lawful fewer]

/-- Induction on the items that come off the front. -/
theorem drain_induct (lawful : Lawful decode) {motive : List β → Prop}
    (more : ∀ b n, decode b = .more n → motive b) (bad : ∀ b e, decode b = .bad e → motive b)
    (item : ∀ b a rest, decode b = .item a rest → motive rest → motive b) (b : List β) :
    motive b := by
  generalize size : b.length = n
  induction n using Nat.strongRecOn generalizing b with
  | _ n ih =>
      cases verdict : decode b with
      | more k => exact more b k verdict
      | bad e => exact bad b e verdict
      | item a rest =>
          exact item b a rest verdict (ih rest.length (size ▸ lawful.takes verdict) rest rfl)

/-- **What more bytes add** to a stream that was drained. -/
theorem drain_append (lawful : Lawful decode) (b x : List β) :
    drain decode (b ++ x) =
      ((drain decode b).1 ++ (feed decode x (drain decode b).2).1,
        (feed decode x (drain decode b).2).2) := by
  induction b using drain_induct lawful with
  | more b n starved =>
      rw [drain_more starved]
      rfl
  | bad b e spoilt =>
      rw [drain_bad spoilt, drain_bad (lawful.bad x spoilt)]
      rfl
  | item b a rest first ih =>
      rw [drain_item lawful first, drain_item lawful (lawful.item x first), ih]
      rfl

/-- A drained stream waits for what it needs, or has failed. -/
theorem drain_idle (lawful : Lawful decode) (b : List β) :
    (∃ rest n, (drain decode b).2 = .waiting rest ∧ decode rest = .more n) ∨
      ∃ e, (drain decode b).2 = .failed e := by
  induction b using drain_induct lawful with
  | more b n starved => exact .inl ⟨b, n, by rw [drain_more starved], starved⟩
  | bad b e spoilt => exact .inr ⟨e, by rw [drain_bad spoilt]⟩
  | item b a rest first ih =>
      rw [drain_item lawful first]
      exact ih

theorem feedAll_failed (chunks : List (List β)) (e : ε) :
    feedAll decode chunks (.failed e) = ([], .failed e) := by
  induction chunks with
  | nil => rfl
  | cons chunk rest ih =>
      rw [feedAll, feed, ih]
      rfl

/-- **The chunks do not matter**: a stream that waits gives the items of all that
arrives, as if it had arrived at once. -/
theorem feedAll_eq (lawful : Lawful decode) (chunks : List (List β)) {b : List β} {n : Nat}
    (starved : decode b = .more n) :
    feedAll decode chunks (.waiting b) = drain decode (b ++ chunks.flatten) := by
  induction chunks generalizing b n with
  | nil => rw [List.flatten_nil, List.append_nil, drain_more starved, feedAll]
  | cons chunk rest ih =>
      rw [List.flatten_cons, ← List.append_assoc, drain_append lawful (b ++ chunk), feedAll, feed]
      rcases drain_idle lawful (b ++ chunk) with ⟨left, m, waiting, idle⟩ | ⟨e, failed⟩
      · rw [waiting, ih idle, feed]
      · rw [failed, feedAll_failed, feed]

/-- What has arrived of a good stream gives the first of its items, and waits. -/
theorem drain_prefix (lawful : Lawful decode) {b x left : List β}
    (waits : (drain decode (b ++ x)).2 = .waiting left) :
    (drain decode b).1 <+: (drain decode (b ++ x)).1 ∧
        ∃ rest, (drain decode b).2 = .waiting rest := by
  rw [drain_append lawful] at waits ⊢
  refine ⟨List.prefix_append _ _, ?_⟩
  rcases drain_idle lawful b with ⟨rest, n, waiting, -⟩ | ⟨e, failed⟩
  · exact ⟨rest, waiting⟩
  · rw [failed] at waits
    cases waits

/-- **A stream of items that were written one after another** gives these items. -/
theorem drain_written (lawful : Lawful decode) (write : α → List β) {items : List α}
    (reads : ∀ a ∈ items, ∀ rest, decode (write a ++ rest) = .item a rest) (left : List β) :
    drain decode (items.flatMap write ++ left) =
      (items ++ (drain decode left).1, (drain decode left).2) := by
  induction items with
  | nil => rfl
  | cons a rest ih =>
      rw [List.forall_mem_cons] at reads
      rw [List.flatMap_cons, List.append_assoc, drain_item lawful (reads.1 _), ih reads.2]
      rfl

end Framing

end InverterGateway.Theory
