import DeskStream.Proofs.Toml.Integers
import DeskStream.Proofs.Toml.Numerals
import DeskStream.Settings.Client
/-!
# The size of a connection's queues in the settings

A size is a word of the machine, and of the values of TOML every one below `wordLimit` is taken
(`ClientConfig.exists_size_iff`). But a file is a text, and the integers of a text end at half of that: the sizes that
a file gives are those below `Toml.integerLimit` (`ClientConfig.exists_file_iff`).
-/

namespace DeskStream

/-! ## Where a size comes from -/

namespace TomlValue

variable {v w : TomlValue} {fields : List String} {field : String → Option TomlValue} {key : String}

theorem natural?_integer {limit n : Nat} (h : n < limit) : natural? limit (.integer n) = some n := by
  simp [natural?, h]

theorem lt_of_natural? {limit n : Nat} (h : natural? limit v = some n) : n < limit := by
  unfold natural? at h
  split at h
  · rename_i i
    split at h
    · rename_i hi
      simp only [Bool.and_eq_true, decide_eq_true_eq] at hi
      cases h
      omega
    · cases h
  · cases h

theorem fieldOr_cases {α : Type} {read : TomlValue → Option α} {d a : α} {w : Option TomlValue}
    (h : fieldOr w read d = some a) : a = d ∨ ∃ v, w = some v ∧ read v = some a := by
  cases w with
  | none =>
    cases h
    exact .inl rfl
  | some v => exact .inr ⟨v, rfl, h⟩

/-- The fields of a record are among what it holds. -/
theorem Bounded.record? (h : v.Bounded) (hf : v.record? fields = some field) (hw : field key = some w) :
    w.Bounded := by
  have listed {items : List TomlValue} (hi : ∀ v ∈ items, v.Bounded) (hw : (fields.zip items).lookup key = some w) :
      w.Bounded := by
    obtain ⟨before, after, he, -⟩ := List.lookup_eq_some_iff.1 hw
    have hmem : (key, w) ∈ fields.zip items := by simp [he]
    exact hi w (List.of_mem_zip hmem).2
  cases h with
  | table h =>
    cases hf
    exact TomlEntries.Bounded.lookup h hw
  | array h =>
    cases hf
    exact listed h hw
  | tables h =>
    cases hf
    exact listed (List.forall_mem_map.2 fun es hes => .table (h es hes)) hw
  | moment =>
    cases hf
    cases hw
  | text | integer | float | boolean => cases hf

theorem Bounded.natural? (h : v.Bounded) {limit n : Nat} (hn : natural? limit v = some n) :
    n < Toml.integerLimit := by
  cases h with
  | integer low high =>
    rw [TomlValue.natural?, Option.ite_none_right_eq_some] at hn
    cases hn.2
    omega
  | text | float | boolean | moment | array | table | tables => cases hn

end TomlValue

/-- The size is the default, or a number that the table gives. -/
theorem TcpConfig.size_cases {v : TomlValue} {c : TcpConfig} (h : ofToml? v = some c) :
    c.channelBufferSize = ({} : TcpConfig).channelBufferSize ∨
      ∃ field w, v.record? tomlKeys = some field ∧ field "channel_buffer_size" = some w ∧
        w.natural? wordLimit = some c.channelBufferSize := by
  simp only [ofToml?, Option.bind_eq_bind, Option.bind_eq_some_iff] at h
  obtain ⟨field, hfield, _, -, _, -, _, -, _, -, _, -, size, hsize, h⟩ := h
  cases h
  exact (TomlValue.fieldOr_cases hsize).imp_right fun ⟨w, hw, hn⟩ => ⟨field, w, hfield, hw, hn⟩

theorem ClientConfig.transport_cases {v : TomlValue} {c : ClientConfig} (h : ofToml? v = some c) :
    c.transport = {} ∨ ∃ field w, v.record? tomlKeys = some field ∧ field "transport" = some w ∧
      TcpConfig.ofToml? w = some c.transport := by
  simp only [ofToml?, Option.bind_eq_bind, Option.bind_eq_some_iff] at h
  obtain ⟨field, hfield, _, -, transport, ht, _, -, _, -, h⟩ := h
  cases h
  exact (TomlValue.fieldOr_cases ht).imp_right fun ⟨w, hw, hc⟩ => ⟨field, w, hfield, hw, hc⟩

theorem TcpConfig.size_lt {v : TomlValue} {c : TcpConfig} (h : ofToml? v = some c) :
    c.channelBufferSize < wordLimit := by
  rcases size_cases h with h | ⟨_, _, -, -, hn⟩
  · rw [h]
    decide
  · exact TomlValue.lt_of_natural? hn

theorem ClientConfig.size_lt {v : TomlValue} {c : ClientConfig} (h : ofToml? v = some c) :
    c.transport.channelBufferSize < wordLimit := by
  rcases transport_cases h with h | ⟨_, _, -, -, hc⟩
  · rw [h]
    decide
  · exact TcpConfig.size_lt hc

theorem TcpConfig.size_lt_of_bounded {v : TomlValue} (hv : v.Bounded) {c : TcpConfig} (h : ofToml? v = some c) :
    c.channelBufferSize < Toml.integerLimit := by
  rcases size_cases h with h | ⟨_, _, hfield, hw, hn⟩
  · rw [h]
    decide
  · exact (hv.record? hfield hw).natural? hn

theorem ClientConfig.size_lt_of_bounded {v : TomlValue} (hv : v.Bounded) {c : ClientConfig}
    (h : ofToml? v = some c) : c.transport.channelBufferSize < Toml.integerLimit := by
  rcases transport_cases h with h | ⟨_, _, hfield, hw, hc⟩
  · rw [h]
    decide
  · exact TcpConfig.size_lt_of_bounded (hv.record? hfield hw) hc

/-! ## A table with a size -/

/-- A table with nothing but the size of a connection's queues. -/
theorem TcpConfig.ofToml?_size {v : TomlValue} {n : Nat} (hn : TomlValue.natural? wordLimit v = some n)
    (origin : TomlOrigin) :
    ofToml? (.table origin [("channel_buffer_size", v)]) = some { channelBufferSize := n } := by
  unfold ofToml?
  generalize TomlValue.natural? wordLimit = read at hn ⊢
  simp only [TomlValue.record?, Option.bind_eq_bind, Option.bind_some]
  -- Of the keys one is found, and the others take their defaults.
  simp only [List.lookup_cons, List.lookup_nil, String.reduceBEq]
  simp only [TomlValue.fieldOr, hn, Option.bind_some]
  rfl

theorem ClientConfig.ofToml?_size {v : TomlValue} {n : Nat} (hn : TomlValue.natural? wordLimit v = some n)
    (origin : TomlOrigin) :
    ofToml? (.table .header [("transport", .table origin [("channel_buffer_size", v)])]) =
      some { transport := { channelBufferSize := n } } := by
  have ht := TcpConfig.ofToml?_size hn origin
  unfold ofToml?
  simp only [TomlValue.record?, Option.bind_eq_bind, Option.bind_some]
  simp only [List.lookup_cons, List.lookup_nil, String.reduceBEq]
  simp only [TomlValue.fieldOr, ht, Option.bind_some]
  rfl

/-- The sizes that are taken from a value. -/
theorem ClientConfig.exists_size_iff (n : Nat) :
    (∃ v c, ofToml? v = some c ∧ c.transport.channelBufferSize = n) ↔ n < wordLimit := by
  constructor
  · rintro ⟨v, c, h, rfl⟩
    exact size_lt h
  · intro h
    exact ⟨_, _, ofToml?_size (TomlValue.natural?_integer h) .header, rfl⟩

/-! ## A line with a size -/

namespace Toml

open Text Reader

variable {n : Nat} {cs : List Char} {v : TomlValue}

/-- A line that gives the queues of a connection a size. -/
def sizeLine (n : Nat) : List Char := "transport.channel_buffer_size".toList ++ '=' :: Nat.toDigits 10 n

theorem key_size (cs : List Char) : key ("transport.channel_buffer_size".toList ++ '=' :: cs) =
    some (["transport", "channel_buffer_size"], '=' :: cs) := by
  have hrest : many (do space; Reader.char '.'; space; simpleKey)
      (".channel_buffer_size".toList ++ '=' :: cs) = some (["channel_buffer_size"], '=' :: cs) :=
    many_of_some (a := "channel_buffer_size") (r := '=' :: cs) (by rfl) (by simp) (many_of_none (by rfl))
  rw [key, bind_of_some (a := ()) (r := "transport.channel_buffer_size".toList ++ '=' :: cs) (by rfl),
    bind_of_some (a := "transport") (r := ".channel_buffer_size".toList ++ '=' :: cs) (by rfl),
    bind_of_some hrest]
  rfl

/-- What is assigned is the value that is read after the key. -/
theorem assignment_of_value (hs : space cs = some ((), cs)) (hv : valueWithin maxDepth cs = some (v, [])) :
    assignment ("transport.channel_buffer_size".toList ++ '=' :: cs) =
      some (.assign ["transport"] "channel_buffer_size" v, []) := by
  have hpair : pairOf (valueWithin maxDepth) ("transport.channel_buffer_size".toList ++ '=' :: cs) =
      some ((["transport"], "channel_buffer_size", v), []) := by
    rw [pairOf, bind_of_some (key_size cs), bind_of_some (a := ()) (r := cs) rfl, bind_of_some hs, bind_of_some hv]
    rfl
  rw [assignment, bind_of_some hpair]
  rfl

theorem assignment_size (hn : n < integerLimit) :
    assignment (sizeLine n) = some (.assign ["transport"] "channel_buffer_size" (.integer n), []) :=
  assignment_of_value (space_toDigits n) (valueWithin_toDigits hn maxDepth)

theorem line_size (hn : n < integerLimit) :
    line (sizeLine n) = some (.assign ["transport"] "channel_buffer_size" (.integer n), []) := by
  have hheader : anyHeader (sizeLine n) = none := by rfl
  have hstatement := optional_of_some ((orElse_of_none hheader).trans (assignment_size hn))
  rw [line, bind_of_some (a := ()) (r := sizeLine n) rfl, bind_of_some hstatement]
  rfl

/-- An empty line follows the last. -/
theorem line_nil : line [] = some (.blank, []) := by rfl

theorem statements_size (hn : n < integerLimit) :
    statements (sizeLine n) = some ([.assign ["transport"] "channel_buffer_size" (.integer n)], []) := by
  have hl : 0 < (sizeLine n).length := List.length_pos_of_mem (List.mem_append_right _ (List.mem_cons_self ..))
  have hlines := many_of_some (line_size hn) hl (many_of_still line_nil (Nat.le_refl _))
  rw [statements, bind_of_some (a := none) (r := sizeLine n) rfl, bind_of_some hlines]
  rfl

theorem ofText?_size (hn : n < integerLimit) : ofText? (String.ofList (sizeLine n)) =
    some (.table .header [("transport", .table .dotted [("channel_buffer_size", .integer n)])]) := by
  have hrun : run? statements (String.ofList (sizeLine n)) =
      some [.assign ["transport"] "channel_buffer_size" (.integer n)] := by
    rw [run?, String.toList_ofList, statements_size hn]
  rw [ofText?, hrun]
  rfl

end Toml

/-! ## Files -/

namespace Text

/-- Characters that are one octet each. -/
theorem ofUtf8?_ascii {cs : List Char} (h : ∀ c ∈ cs, c.toNat < 128) :
    ofUtf8? (cs.map fun c => UInt8.ofNat c.toNat) = some (String.ofList cs) := by
  have hscan : scanUtf8 (cs.map fun c => UInt8.ofNat c.toNat) = cs.map some := by
    induction cs with
    | nil => rw [List.map_nil, List.map_nil, scanUtf8]
    | cons c cs ih =>
      rw [List.forall_mem_cons] at h
      have hlead (r : Bytes) : lead (UInt8.ofNat c.toNat) r = .char c 1 := by
        have hlt : UInt8.ofNat c.toNat < 0x80 := by
          rw [UInt8.lt_iff_toNat_lt, UInt8.toNat_ofNat']
          have := h.1
          simp only [UInt8.reduceToNat]
          omega
        have hc : (UInt8.ofNat c.toNat).toNat = c.toNat := by
          rw [UInt8.toNat_ofNat']
          have := h.1
          omega
        rw [lead, if_pos hlt, hc, Char.ofNat_toNat]
      rw [List.map_cons, List.map_cons, ← ih h.2, scanUtf8, hlead]
      rfl
  have hall : (cs.map some).mapM id = some cs := by
    rw [List.mapM_map]
    exact (List.mapM_pure ..).trans (congrArg some (List.map_id cs))
  rw [ofUtf8?, hscan, hall]
  rfl

theorem toNat_lt_of_isDigit {c : Char} (h : c.isDigit) : c.toNat < 128 := by
  simp only [Char.isDigit, Bool.and_eq_true, decide_eq_true_eq, UInt32.le_iff_toNat_le] at h
  exact Nat.lt_of_le_of_lt h.2 (by decide)

end Text

namespace ClientConfig

/-- A file that gives the queues of a connection a size. -/
def sizeFile (n : Nat) : Bytes := (Toml.sizeLine n).map fun c => UInt8.ofNat c.toNat

theorem ofUtf8?_sizeFile (n : Nat) : Text.ofUtf8? (sizeFile n) = some (String.ofList (Toml.sizeLine n)) := by
  have hkey : "transport.channel_buffer_size".toList.all (fun c => c.toNat < 128) := by decide
  apply Text.ofUtf8?_ascii
  intro c hc
  rcases List.mem_append.1 hc with hc | hc
  · exact of_decide_eq_true (List.all_eq_true.1 hkey c hc)
  · rcases List.mem_cons.1 hc with rfl | hc
    · decide
    · exact Text.toNat_lt_of_isDigit (Nat.isDigit_of_mem_toDigits (by decide) (by decide) hc)

theorem ofFile_sizeFile {n : Nat} (hn : n < Toml.integerLimit) :
    ofFile (some (sizeFile n)) = .ok { transport := { channelBufferSize := n } } := by
  have hword : n < wordLimit := Nat.lt_trans hn (by decide)
  have hread : (Toml.ofText? (String.ofList (Toml.sizeLine n)) >>= ofToml?) =
      some { transport := { channelBufferSize := n } } := by
    rw [Toml.ofText?_size hn, Option.bind_eq_bind, Option.bind_some]
    exact ofToml?_size (TomlValue.natural?_integer hword) .dotted
  simp only [ofFile, Option.bind_some, ofUtf8?_sizeFile, hread]

theorem size_lt_of_file {contents : Option Bytes} {c : ClientConfig} (h : ofFile contents = .ok c) :
    c.transport.channelBufferSize < Toml.integerLimit := by
  unfold ofFile at h
  split at h
  · cases h
  · split at h
    · cases h
    · rename_i hc
      cases h
      obtain ⟨v, hv, hc⟩ := Option.bind_eq_some_iff.1 hc
      exact size_lt_of_bounded (Toml.bounded_of_text hv) hc

/-- The sizes that a file gives. -/
theorem exists_file_iff (n : Nat) :
    (∃ contents c, ofFile (some contents) = .ok c ∧ c.transport.channelBufferSize = n) ↔
      n < Toml.integerLimit := by
  constructor
  · rintro ⟨contents, c, h, rfl⟩
    exact size_lt_of_file h
  · intro h
    exact ⟨sizeFile n, _, ofFile_sizeFile h, rfl⟩

end ClientConfig
end DeskStream
