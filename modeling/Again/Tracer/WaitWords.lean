import Again.Tracer.WaitStatus
import Mathlib.Tactic.Ring

/-!
# Wait words

The kernel packs a final status, a stop or a continuation into one word, and
the decoder takes it apart. A word is accepted exactly when it is the packing
of a class the tracer admits, so no word reads as two classes and none mixes
the fields of two.
-/

namespace Again.Tracer

/-- The classes the tracer admits. -/
def LinuxWaitStatusClass.Supported : LinuxWaitStatusClass → Prop
  | .final termination => termination.valid = true
  | .ptraceEventStopRequiringContext ⟨stopSignal, shape⟩ =>
    stopSignal = sigtrap ∧ shape = .trapInitialChildOrInterrupt ∨
      isJobControlStopSignal stopSignal = true ∧ shape = .jobControlGroupStop
  | .eventZeroStopRequiringSiginfo stopSignal => 1 ≤ stopSignal ∧ stopSignal ≤ maxSignal
  | _ => True

/-- A stop by a signal, with a ptrace event. -/
def stopWord (event : UInt16) (signal : UInt8) : UInt32 := event.toUInt32 <<< 16 ||| signal.toUInt32 <<< 8 ||| 0x7f

/-- The kernel's packing of a class. -/
def LinuxWaitStatusClass.encode : LinuxWaitStatusClass → UInt32
  | .final (.exited code) => code.toUInt32 <<< 8
  | .final (.signaled signal coreDumped) => if coreDumped then signal.toUInt32 ||| 0x80 else signal.toUInt32
  | .continued => 0xffff
  | .syscallEntryOrExitStop => stopWord 0 tracesysgoodStopSignal
  | .ptraceEvent event => stopWord event.code sigtrap
  | .ptraceEventStopRequiringContext candidate => stopWord 128 candidate.stopSignal
  | .eventZeroStopRequiringSiginfo stopSignal => stopWord 0 stopSignal

/-! ## Bits of a word -/

theorem and_shiftLeft (x m i : Nat) : x &&& m <<< i = (x >>> i &&& m) <<< i := by
  apply Nat.eq_of_testBit_eq
  intro j
  by_cases h : i ≤ j
  · simp [h]
  · simp [h]

theorem shift_or {a b i : Nat} (h : b < 2 ^ i) : a <<< i ||| b = a * 2 ^ i + b := by
  rw [← Nat.shiftLeft_add_eq_or_of_lt h, Nat.shiftLeft_eq]

variable {w : UInt32} {c : LinuxWaitStatusClass}

theorem lowByte_toNat : (w &&& 0xff).toUInt8.toNat = w.toNat % 256 := by
  have h := Nat.and_two_pow_sub_one_eq_mod (w.toNat % 256) 8
  simpa using h

theorem stopSignal_toNat : (w >>> 8 &&& 0xff).toUInt8.toNat = w.toNat / 256 % 256 := by
  have h := Nat.and_two_pow_sub_one_eq_mod (w.toNat / 256 % 256) 8
  simpa [Nat.shiftRight_eq_div_pow] using h

theorem eventCode_toNat : (w >>> 16).toUInt16.toNat = w.toNat / 65536 := by
  have h : (w >>> 16).toUInt16.toNat = w.toNat / 2 ^ 16 % 65536 := by simp [Nat.shiftRight_eq_div_pow]
  have hw := w.toNat_lt
  omega

theorem mask_toNat (x i n : Nat) : x &&& (2 ^ n - 1) <<< i = x / 2 ^ i % 2 ^ n * 2 ^ i := by
  rw [and_shiftLeft, Nat.and_two_pow_sub_one_eq_mod, Nat.shiftRight_eq_div_pow, Nat.shiftLeft_eq]

theorem eventBits_eq_zero : w &&& 0xffff0000 = 0 ↔ w.toNat / 65536 = 0 := by
  have h : (w &&& 0xffff0000).toNat = w.toNat / 2 ^ 16 % 2 ^ 16 * 2 ^ 16 := mask_toNat w.toNat 16 16
  have hw := w.toNat_lt
  rw [← UInt32.toNat_inj, h, UInt32.toNat_zero]
  omega

theorem exitBits_eq_zero : w &&& 0x0000ff00 = 0 ↔ w.toNat / 256 % 256 = 0 := by
  have h : (w &&& 0x0000ff00).toNat = w.toNat / 2 ^ 8 % 2 ^ 8 * 2 ^ 8 := mask_toNat w.toNat 8 8
  rw [← UInt32.toNat_inj, h, UInt32.toNat_zero]
  omega

theorem byte_shift_toNat (signal : UInt8) : (signal.toUInt32 <<< 8).toNat = signal.toNat * 256 := by
  have hs := signal.toNat_lt
  rw [UInt32.toNat_shiftLeft, Nat.mod_eq_of_lt] <;> simp [Nat.shiftLeft_eq]
  omega

theorem stopWord_toNat (event : UInt16) (signal : UInt8) :
    (stopWord event signal).toNat = event.toNat * 65536 + signal.toNat * 256 + 127 := by
  have he := event.toNat_lt
  have hs := signal.toNat_lt
  have hevent : (event.toUInt32 <<< 16).toNat = event.toNat <<< 16 := by
    rw [UInt32.toNat_shiftLeft, Nat.mod_eq_of_lt] <;> simp [Nat.shiftLeft_eq]
    omega
  have hhigh : event.toNat <<< 16 ||| signal.toNat * 256 = (event.toNat * 256 + signal.toNat) <<< 8 := by
    rw [shift_or (by omega), Nat.shiftLeft_eq]
    omega
  rw [stopWord, UInt32.toNat_or, UInt32.toNat_or, hevent, byte_shift_toNat, hhigh]
  show _ <<< 8 ||| 127 = _
  rw [shift_or (by decide)]
  omega

/-- A word whose low byte says it is a stop is made of its event and its signal. -/
theorem stopWord_fields (h : (w &&& 0xff).toUInt8 = 0x7f) :
    stopWord (w >>> 16).toUInt16 (w >>> 8 &&& 0xff).toUInt8 = w := by
  have hlow : w.toNat % 256 = 127 := by rw [← lowByte_toNat, h]; rfl
  rw [← UInt32.toNat_inj, stopWord_toNat, eventCode_toNat, stopSignal_toNat]
  omega

/-! ## The two directions -/

theorem decodeEventWithTrap_ok (event : LinuxPtraceEvent) {signal : UInt8}
    (h : decodeEventWithTrap event signal = .ok c) :
    c.Supported ∧ c.encode = stopWord event.code signal := by
  obtain ⟨-, h⟩ | ⟨htrap, h⟩ := ite_eq_iff.1 h
  · cases h
  · cases h
    rw [not_not.1 htrap]
    exact ⟨trivial, rfl⟩

theorem decodePtraceEventStop_ok {signal : UInt8} (h : decodePtraceEventStop signal = .ok c) :
    c.Supported ∧ c.encode = stopWord 128 signal := by
  unfold decodePtraceEventStop at h
  split_ifs at h with htrap hjob <;> cases h
  · exact ⟨.inl ⟨htrap, rfl⟩, rfl⟩
  · exact ⟨.inr ⟨hjob, rfl⟩, rfl⟩

theorem decodeLinuxPtraceStop_ok (h : decodeLinuxPtraceStop w = .ok c) :
    c.Supported ∧ c.encode = stopWord (w >>> 16).toUInt16 (w >>> 8 &&& 0xff).toUInt8 := by
  unfold decodeLinuxPtraceStop at h
  generalize (w >>> 8 &&& 0xff).toUInt8 = signal at h ⊢
  generalize (w >>> 16).toUInt16 = event at h ⊢
  obtain ⟨rfl, hc⟩ | ⟨-, h⟩ := ite_eq_iff.1 h
  · split_ifs at hc with hsys hrange <;> cases hc
    · rw [hsys]
      exact ⟨trivial, rfl⟩
    · rw [not_or, UInt8.not_lt] at hrange
      have hpos : 1 ≤ signal.toNat := Nat.pos_of_ne_zero fun h => hrange.1 (UInt8.toNat_inj.1 h)
      exact ⟨⟨UInt8.le_iff_toNat_le.2 hpos, hrange.2⟩, rfl⟩
  obtain ⟨rfl, hc⟩ | ⟨-, h⟩ := ite_eq_iff.1 h
  · exact decodeEventWithTrap_ok .fork hc
  obtain ⟨rfl, hc⟩ | ⟨-, h⟩ := ite_eq_iff.1 h
  · exact decodeEventWithTrap_ok .vfork hc
  obtain ⟨rfl, hc⟩ | ⟨-, h⟩ := ite_eq_iff.1 h
  · exact decodeEventWithTrap_ok .clone hc
  obtain ⟨rfl, hc⟩ | ⟨-, h⟩ := ite_eq_iff.1 h
  · exact decodeEventWithTrap_ok .exec hc
  obtain ⟨-, hc⟩ | ⟨-, h⟩ := ite_eq_iff.1 h
  · split_ifs at hc
  obtain ⟨rfl, hc⟩ | ⟨-, h⟩ := ite_eq_iff.1 h
  · exact decodeEventWithTrap_ok .exit hc
  obtain ⟨rfl, hc⟩ | ⟨-, h⟩ := ite_eq_iff.1 h
  · exact decodeEventWithTrap_ok .seccomp hc
  obtain ⟨rfl, hc⟩ | ⟨-, h⟩ := ite_eq_iff.1 h
  · exact decodePtraceEventStop_ok hc
  · cases h

/-- What holds of the 256 bytes holds of every byte. -/
theorem forall_byte {p : UInt8 → Prop} (h : ∀ i : Fin 256, p (.ofFin i)) (b : UInt8) : p b := h b.toFin

theorem decodeLinuxTerminalSignal_ok (hevent : w &&& 0xffff0000 = 0)
    (h : decodeLinuxTerminalSignal w (w &&& 0xff).toUInt8 = .ok c) : c.Supported ∧ c.encode = w := by
  -- the packed signal and core flag are the low byte, whatever the byte is
  have hbyte : ∀ low : UInt8, (LinuxWaitStatusClass.final (.signaled (low &&& 0x7f) (low &&& 0x80 ≠ 0))).encode =
    low.toUInt32 := forall_byte (by decide +kernel)
  have hvalid : ∀ (signal : UInt8) (core : Bool), ¬ (signal = 0 ∨ maxSignal < signal) →
      ¬ (core ∧ ¬ (LinuxWaitTermination.signaled signal core).valid) →
      (LinuxWaitTermination.signaled signal core).valid = true := forall_byte (by decide +kernel)
  unfold decodeLinuxTerminalSignal at h
  dsimp only at h
  split_ifs at h with hsignal hexit hcore
  cases h
  refine ⟨hvalid _ _ hsignal hcore, (hbyte _).trans ?_⟩
  rw [eventBits_eq_zero] at hevent
  rw [not_not, exitBits_eq_zero] at hexit
  rw [← UInt32.toNat_inj, UInt8.toNat_toUInt32, lowByte_toNat]
  omega

theorem decodeLinuxWaitStatus_ok {raw : Int32} (h : decodeLinuxWaitStatus raw = .ok c) :
    c.Supported ∧ c.encode = raw.toUInt32 := by
  unfold decodeLinuxWaitStatus at h
  dsimp only at h
  generalize raw.toUInt32 = w at h ⊢
  split_ifs at h with hevent hcont hexit _ hstop
  · cases h
    exact ⟨trivial, hcont.symm⟩
  · cases h
    have hlow : w.toNat % 256 = 0 := by rw [← lowByte_toNat, hexit]; rfl
    have hhigh : w.toNat / 65536 = 0 := by
      rw [← eventBits_eq_zero]
      by_contra hne
      exact hevent ⟨hne, by rw [hexit]; decide⟩
    refine ⟨rfl, ?_⟩
    rw [← UInt32.toNat_inj]
    show ((w >>> 8 &&& 0xff).toUInt8.toUInt32 <<< 8).toNat = _
    rw [byte_shift_toNat, stopSignal_toNat]
    omega
  · have hc := decodeLinuxPtraceStop_ok h
    rwa [stopWord_fields hstop] at hc
  · exact decodeLinuxTerminalSignal_ok (by by_contra hne; exact hevent ⟨hne, hstop⟩) h

/-- Every final status the decoder admits is a termination Linux can report. -/
theorem decodeLinuxWaitStatus_final_valid {raw : Int32} {t : LinuxWaitTermination}
    (h : decodeLinuxWaitStatus raw = .ok (.final t)) : t.valid = true := (decodeLinuxWaitStatus_ok h).1

theorem decodeLinuxWaitStatus_encode (h : c.Supported) : decodeLinuxWaitStatus c.encode.toInt32 = .ok c := by
  match c with
  | .final (.exited code) =>
    clear h
    revert code
    exact forall_byte (by decide +kernel)
  | .final (.signaled signal coreDumped) =>
    dsimp only [LinuxWaitStatusClass.Supported] at h
    revert signal coreDumped
    exact forall_byte (by decide +kernel)
  | .syscallEntryOrExitStop => decide +kernel
  | .continued => decide +kernel
  | .ptraceEvent event => cases event <;> decide +kernel
  | .ptraceEventStopRequiringContext ⟨signal, shape⟩ =>
    rcases h with ⟨rfl, rfl⟩ | ⟨hsignal, rfl⟩
    · decide +kernel
    · simp [isJobControlStopSignal] at hsignal
      rcases hsignal with rfl | rfl | rfl | rfl <;> decide +kernel
  | .eventZeroStopRequiringSiginfo signal =>
    dsimp only [LinuxWaitStatusClass.Supported] at h
    revert signal
    exact forall_byte (by decide +kernel)

/-- The decoder inverts the kernel's packing: a word is read as a class exactly when the
tracer admits the class and the word is its packing. No class has two words, and every
final class is a termination Linux can report. -/
theorem wait_word_decoding :
    (∀ (w : Int32) (c : LinuxWaitStatusClass),
      decodeLinuxWaitStatus w = .ok c ↔ c.Supported ∧ c.encode = w.toUInt32) ∧
    (∀ (w w' : Int32) (c : LinuxWaitStatusClass),
      decodeLinuxWaitStatus w = .ok c → decodeLinuxWaitStatus w' = .ok c → w = w') ∧
    ∀ (w : Int32) (t : LinuxWaitTermination), decodeLinuxWaitStatus w = .ok (.final t) → t.valid = true := by
  refine ⟨fun w c => ⟨decodeLinuxWaitStatus_ok, ?_⟩, ?_, fun w t => decodeLinuxWaitStatus_final_valid⟩
  · rintro ⟨hc, hw⟩
    have h := decodeLinuxWaitStatus_encode hc
    rwa [hw] at h
  · intro w w' c h h'
    have hw := (decodeLinuxWaitStatus_ok h).2.symm.trans (decodeLinuxWaitStatus_ok h').2
    exact congrArg Int32.ofUInt32 hw

end Again.Tracer
