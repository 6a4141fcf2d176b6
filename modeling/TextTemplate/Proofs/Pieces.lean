import TextTemplate.Proofs.Denotation
import TextTemplate.Proofs.Ending
import TextTemplate.Proofs.Exit

/-!
# Writing in pieces

To write texts one after the other is to write them together, whatever the sinks are and whether or
not the writer takes all of it (`Walk.write_append`). The nodes before the content of a wrap may be
anything: they are walked once, when the first piece with content arrives, and leave the sinks
above them alone (`Walk.writeLevel_keeps`).
-/

set_option autoImplicit false

namespace TextTemplate

/-- A writer without a bound takes everything. -/
theorem Writer.write_of_capacity {w : Writer} (h : w.capacity = none) (bytes : ByteArray) :
    w.write bytes = ({ w with written := w.written ++ bytes }, none) := by
  rw [write, h]

namespace Walk

variable {α β γ : Type} {host : Host} {s v : State} {above rest : List Sink} {w : WrapSink}
  {a b bytes : ByteArray} {r : Outcome Unit × State}

/-! ### Steps one after the other -/

private theorem bind_bind_run (m : Walk α) (f : α → Walk β) (g : β → Walk γ) (s : State) :
    ((m >>= f) >>= g) s = (m >>= fun a ↦ f a >>= g) s := by
  rw [bind_run, bind_run, bind_run, Run.bind_assoc]
  congr
  funext r
  obtain ⟨outcome, u⟩ := r
  cases outcome <;> rfl

/-- A step that is done at once is followed by the next one with its value. -/
theorem bind_of_done {m : Walk α} {x : α} (h : m s = .done (.ok x, v)) (f : α → Walk β) :
    (m >>= f) s = f x v := by
  rw [bind_run, h]
  rfl

private theorem bind_of_eq {m m' : Walk α} (h : m s = m' v) (f : α → Walk β) :
    (m >>= f) s = (m' >>= f) v := by
  rw [bind_run, h, ← bind_run]

/-- Steps that go on alike after a first one end alike. -/
theorem bind_ends_congr {m : Walk α} {f g : α → Walk β} {r : Outcome β × State}
    (h : ∀ a u, (m s).Ends host (.ok a, u) → ((f a u).Ends host r ↔ (g a u).Ends host r)) :
    ((m >>= f) s).Ends host r ↔ ((m >>= g) s).Ends host r := by
  have hhalf {f g : α → Walk β}
      (h : ∀ a u, (m s).Ends host (.ok a, u) → (f a u).Ends host r → (g a u).Ends host r)
      (hf : ((m >>= f) s).Ends host r) : ((m >>= g) s).Ends host r := by
    rw [bind_run] at hf ⊢
    obtain ⟨⟨outcome, u⟩, hm, hr⟩ := hf.of_bind
    refine hm.bind ?_
    cases outcome with
    | ok a => exact h a u hm hr
    | error e => exact hr
    | panic message => exact hr
  exact ⟨hhalf fun a u hm ↦ (h a u hm).mp, hhalf fun a u hm ↦ (h a u hm).mpr⟩

/-- What comes after steps that end alike ends alike. -/
theorem ends_bind_congr {m m' : Walk α} (h : ∀ x, (m s).Ends host x ↔ (m' s).Ends host x)
    (f : α → Walk β) {r : Outcome β × State} :
    ((m >>= f) s).Ends host r ↔ ((m' >>= f) s).Ends host r := by
  rw [bind_run, bind_run]
  constructor
  · intro hr
    obtain ⟨x, hx, hr⟩ := hr.of_bind
    exact ((h x).mp hx).bind hr
  · intro hr
    obtain ⟨x, hx, hr⟩ := hr.of_bind
    exact ((h x).mpr hx).bind hr

/-! ### Sinks above a level -/

/-- The sinks above the oldest ones in a number. -/
def Above (sinks : List Sink) (level : Nat) (s : State) : Prop :=
  ∃ rest, rest.length = level ∧ s.sinks = sinks ++ rest

/-- The newest of the oldest sinks is one of those above the others. -/
theorem Above.newest {sink : Sink} {level : Nat} (h : Above (above ++ [sink]) level s) :
    ∃ rest, rest.length = level ∧ s.sinks = above ++ sink :: rest := by
  obtain ⟨rest, hlength, hs⟩ := h
  exact ⟨rest, hlength, by rw [hs, List.append_assoc, List.singleton_append]⟩

private theorem Above.cons {sink : Sink} {level : Nat} (h : Above (above ++ [sink]) level s) :
    Above above (level + 1) s := by
  obtain ⟨rest, hlength, hs⟩ := h.newest
  exact ⟨sink :: rest, congrArg (· + 1) hlength, hs⟩

private theorem above_of_sinks {sink : Sink} (hs : s.sinks = above ++ sink :: rest) :
    Above (above ++ [sink]) rest.length s :=
  ⟨rest, rfl, by rw [hs, List.append_assoc, List.singleton_append]⟩

/-- Nodes that are walked at a level leave the sinks above it as they are. -/
theorem below_keeps {level : Nat} {nodes : List Node} {dot : Value} (hs : Above above level s)
    (h : (below level nodes dot s).Ends host (.ok (), v)) : ∃ rest, v.sinks = above ++ rest := by
  obtain ⟨rest, rfl, hs⟩ := hs
  rw [below, read_bind, modify_bind] at h
  obtain ⟨u, -, rfl⟩ := of_after_ends h trivial
  refine ⟨Stack.oldest u.sinks rest.length, ?_⟩
  have habove : Stack.above s.sinks rest.length = above := by rw [hs, Stack.above_append]
  exact congrArg (· ++ _) habove

/-- The nodes before the content of a wrap leave the wrap and the sinks above it as they are. -/
theorem leading_keeps (hs : s.sinks = above ++ .wrap w.opened :: rest)
    (h : (leading rest.length w s).Ends host (.ok (), v)) :
    Above (above ++ [.wrap w.opened]) rest.length v := by
  have hlength := (leading_level hs h).length_sinks
  rw [leading] at h
  cases hb : w.before with
  | none =>
    rw [hb] at h
    cases h
    exact above_of_sinks hs
  | some nodes =>
    rw [hb] at h
    obtain ⟨rest', hv⟩ := below_keeps (above_of_sinks hs) h
    refine ⟨rest', ?_, hv⟩
    simpa [hs, hv] using hlength

/-- To write at a level leaves the sinks above it as they are. -/
theorem writeLevel_keeps {level : Nat} (hs : Above above level s)
    (h : (writeLevel level bytes s).Ends host (.ok (), v)) : Above above level v := by
  induction level generalizing above s bytes with
  | zero =>
    rw [writeLevel, writeBottom] at h
    split at h
    · cases h
      exact hs
    · cases h
  | succ level ih =>
    obtain ⟨newest, hlength, hs⟩ := hs
    obtain ⟨sink, rest, rfl⟩ := List.exists_cons_of_length_eq_add_one hlength
    obtain rfl : rest.length = level := Nat.succ.inj hlength
    cases sink with
    | buffer held =>
      rw [writeLevel_buffer hs] at h
      cases h
      exact ⟨.buffer (held ++ bytes) :: rest, rfl, rfl⟩
    | wrap w =>
      cases ht : w.triggered with
      | true =>
        rw [writeLevel_triggered hs ht] at h
        exact (ih (above_of_sinks hs) h).cons
      | false =>
        cases hb : hasContent bytes with
        | false =>
          rw [writeLevel_blank hs ht hb] at h
          cases h
          exact ⟨.wrap (w.holding (w.collect bytes)) :: rest, rfl, rfl⟩
        | true =>
          rw [writeLevel_content hs ht hb] at h
          obtain ⟨_, u, hlead, hrest⟩ := of_bind_ends_ok h
          exact (ih (leading_keeps rfl hlead) hrest).cons

/-! ### Bytes in two pieces -/

private theorem writeLevel_append {level : Nat} (a b : ByteArray) (hs : Above above level s) :
    (writeLevel level (a ++ b) s).Ends host r ↔
      ((writeLevel level a >>= fun _ ↦ writeLevel level b) s).Ends host r := by
  induction level generalizing above s a b with
  | zero =>
    simp only [bind_run, writeLevel, writeBottom, Writer.write_append]
    cases s.writer.write a with
    | mk x fault =>
      cases fault with
      | none => exact Iff.rfl
      | some fault => exact Iff.rfl
  | succ level ih =>
    obtain ⟨newest, hlength, hs⟩ := hs
    obtain ⟨sink, rest, rfl⟩ := List.exists_cons_of_length_eq_add_one hlength
    obtain rfl : rest.length = level := Nat.succ.inj hlength
    cases sink with
    | buffer held =>
      have hheld : ({ s with sinks := above ++ .buffer (held ++ a) :: rest } : State).sinks =
          above ++ .buffer (held ++ a) :: rest := rfl
      rw [bind_of_done (writeLevel_buffer hs), writeLevel_buffer hheld, writeLevel_buffer hs,
        ByteArray.append_assoc]
    | wrap w =>
      -- an open wrap lets the second piece through as well
      have through {w : WrapSink} {a b : ByteArray} {u : State} (ht : w.triggered = true)
          (hu : Above (above ++ [.wrap w]) rest.length u) :
          (writeLevel rest.length (a ++ b) u).Ends host r ↔
            ((writeLevel rest.length a >>= fun _ ↦ writeLevel (rest.length + 1) b) u).Ends
              host r := by
        refine (ih a b hu).trans (bind_ends_congr fun _ v hv ↦ ?_)
        obtain ⟨rest', hlength, hsinks⟩ := (writeLevel_keeps hu hv).newest
        rw [← hlength, writeLevel_triggered hsinks ht]
      cases ht : w.triggered with
      | true =>
        rw [writeLevel_triggered hs ht, bind_of_eq (writeLevel_triggered hs ht)]
        exact through ht (above_of_sinks hs)
      | false =>
        cases ha : hasContent a with
        | true =>
          have hab : hasContent (a ++ b) = true := by rw [hasContent_append, ha, Bool.true_or]
          rw [writeLevel_content hs ht hab, w.collect_append_content ha,
            bind_of_eq (writeLevel_content hs ht ha), bind_bind_run]
          exact bind_ends_congr fun _ u hu ↦ through rfl (leading_keeps rfl hu)
        | false =>
          have hab : hasContent (a ++ b) = hasContent b := by
            rw [hasContent_append, ha, Bool.false_or]
          have hheld : (w.holding (w.collect a)).triggered = false := ht
          rw [bind_of_done (writeLevel_blank hs ht ha)]
          cases hb : hasContent b with
          | true =>
            rw [writeLevel_content hs ht (hab.trans hb), writeLevel_content rfl hheld hb,
              w.collect_append_blank ha]
            rfl
          | false =>
            rw [writeLevel_blank hs ht (hab.trans hb), writeLevel_blank rfl hheld hb,
              w.collect_append_blank ha]
            rfl

/-- No bytes leave the state as it is. -/
theorem writeLevel_empty {level : Nat} (hs : Above above level s) :
    writeLevel level .empty s = .done (.ok (), s) := by
  induction level generalizing above with
  | zero => rw [writeLevel, writeBottom, Writer.write_empty]
  | succ level ih =>
    obtain ⟨newest, hlength, hs⟩ := hs
    obtain ⟨sink, rest, rfl⟩ := List.exists_cons_of_length_eq_add_one hlength
    obtain rfl : rest.length = level := Nat.succ.inj hlength
    cases sink with
    | buffer held => rw [writeLevel_buffer hs, ByteArray.append_empty, ← hs]
    | wrap w =>
      cases ht : w.triggered with
      | true =>
        rw [writeLevel_triggered hs ht]
        exact ih (above_of_sinks hs)
      | false =>
        rw [writeLevel_blank hs ht rfl, w.holding_collect_empty, ← hs]

/-- Bytes are written to the newest sink. -/
theorem write_eq (bytes : ByteArray) (s : State) :
    write bytes s = writeLevel s.sinks.length bytes s := by
  rw [write]
  split
  · next hempty =>
    have hbytes : bytes = .empty := ByteArray.size_eq_zero_iff.mp (beq_iff_eq.mp hempty)
    have hs : Above [] s.sinks.length s := ⟨s.sinks, rfl, rfl⟩
    rw [hbytes, writeLevel_empty hs]
    rfl
  · rfl

/-- To write two pieces is to write them together. -/
theorem write_append (a b : ByteArray) (s : State) :
    (write (a ++ b) s).Ends host r ↔ ((write a >>= fun _ ↦ write b) s).Ends host r := by
  have hs : Above [] s.sinks.length s := ⟨s.sinks, rfl, rfl⟩
  rw [write_eq, writeLevel_append a b hs, bind_of_eq (write_eq a s)]
  refine bind_ends_congr fun _ u hu ↦ ?_
  obtain ⟨sinks, hlength, hsinks⟩ := writeLevel_keeps hs hu
  rw [write_eq, hsinks, List.nil_append, hlength]

/-! ### Texts one after the other -/

private theorem writeText_append (x y : String) (s : State) :
    (writeText (x ++ y) s).Ends host r ↔
      ((writeText x >>= fun _ ↦ writeText y) s).Ends host r := by
  have hbytes : (x ++ y).toUTF8 = x.toUTF8 ++ y.toUTF8 := String.toByteArray_append
  rw [writeText, hbytes]
  exact write_append _ _ s

/-- An error that a program passes on ends it. -/
theorem program_orFail (m : Walk α) (next : α → Program β) (s : State) :
    (m.attempt >>= fun x ↦ program host (.orFail next x)) s =
      (m >>= fun a ↦ program host (next a)) s := by
  rw [bind_run, bind_run, attempt, Run.bind_assoc]
  congr
  funext r
  obtain ⟨outcome, u⟩ := r
  cases outcome <;> rfl

/-- A program that writes texts and ends writes them together. -/
theorem program_writeAll (texts : List String) (x : β) (s : State) {r : Outcome β × State} :
    (program host (.writeAll (.done x) texts) s).Ends host r ↔
      ((writeText (String.join texts) >>= fun _ ↦ Pure.pure x) s).Ends host r := by
  induction texts generalizing s with
  | nil =>
    have hempty : writeText (String.join []) s = .done (.ok (), s) := rfl
    rw [bind_of_done hempty]
    exact Iff.rfl
  | cons text rest ih =>
    have hjoin : String.join (text :: rest) = text ++ String.join rest := by simp
    calc (program host (.writeAll (.done x) (text :: rest)) s).Ends host r
        ↔ ((writeText text >>= fun _ ↦ program host (.writeAll (.done x) rest)) s).Ends host r := by
          rw [Program.writeAll, program, program_orFail]
      _ ↔ ((writeText text >>= fun _ ↦
            (writeText (String.join rest) >>= fun _ ↦ Pure.pure x)) s).Ends host r :=
          bind_ends_congr fun _ u _ ↦ ih u
      _ ↔ ((writeText (text ++ String.join rest) >>= fun _ ↦ Pure.pure x) s).Ends host r := by
          rw [← bind_bind_run]
          exact ends_bind_congr (fun _ ↦ (writeText_append text _ s).symm) _
      _ ↔ _ := by rw [hjoin]

end Walk

end TextTemplate
