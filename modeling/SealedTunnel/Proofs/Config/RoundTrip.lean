import Mathlib.Algebra.Group.Nat.Defs
import SealedTunnel.Command.Memory
import SealedTunnel.Proofs.Toml.Document

/-!
# What is saved is loaded

Saving and loading a configuration are inverse. Every value is written so that it is read back, each
key stands once, with a value, in the part where it is looked for, and so the table that is read
holds all that was written. Only a number of more than 63 bits cannot be written; then nothing is.

## Main definitions

* `Config.Field.value`: the value that a field is read back as
* `Config.Part.section`: a part as a section of a document
* `Config.numbers`: the numbers in a configuration

## Main results

* `Config.reads_written`: a field is read back
* `Config.parse?_toText`: so are the tables of a configuration
* `Config.ofEntries?_entries`: and they are the configuration
* `Config.saved_is_loaded`: saving and loading are inverse
-/

namespace SealedTunnel

namespace Config

open Toml Toml.Document

variable {c : Config} {text : String}

/-! ## Fields -/

/-- The value that a field is read back as. -/
def Field.value : Field → Value
  | .text s => .string s
  | .switch b => .boolean b
  | .number n => .integer n.toNat

theorem fits_number (n : UInt64) : (Field.number n).fits ↔ n.toNat ≤ 2 ^ 63 - 1 :=
  decide_eq_true_iff

theorem fits_switch (b : Bool) : (Field.switch b).fits := rfl

theorem fits_text (s : String) : (Field.text s).fits := rfl

/-- **A field is read back.** -/
theorem reads_written {f : Field} (h : f.fits) : Reads f.written.toList f.value := by
  cases f with
  | text s =>
    rw [Field.written, String.toList_ofList]
    exact reads_write s
  | switch b => exact reads_boolean b
  | number n =>
    have hdigits : (toString n.toNat).toList = Nat.toDigits 10 n.toNat := by
      rw [Nat.toString_eq_ofList_toDigits, String.toList_ofList]
    rw [Field.written, hdigits]
    exact reads_toDigits ((fits_number n).1 h)

/-! ## Parts -/

/-- The keys of a part with what is written for them. -/
def Part.written (p : Part) : Document.Fields :=
  p.fields.map fun (key, f) => (key, f.written.toList, f.value)

/-- A part as a section of a document. -/
def Part.section (p : Part) : Section :=
  ⟨p.header.getD "", p.written⟩

/-- The table that a part is read back as. -/
def Part.table (p : Part) : Value :=
  .table .header p.written.entries

/-- The lines of a part. -/
def Part.statements (p : Part) : List Statement :=
  (p.header.map Statement.header).toList ++ p.written.statements

/-- The characters of a part are those of its lines. -/
theorem flatMap_text_statements (p : Part) :
    (p.lines.map (· ++ "\n")).flatMap String.toList = p.statements.flatMap Statement.text := by
  have hfields : ((p.fields.map fun (key, f) => key ++ " = " ++ f.written).map
      (· ++ "\n")).flatMap String.toList = p.written.statements.flatMap Statement.text := by
    simp [Part.written, Document.Fields.statements, List.flatMap_map, Statement.text,
      Function.comp_def]
  obtain ⟨header, fields⟩ := p
  cases header with
  | none => simpa [Part.lines, Part.statements] using hfields
  | some header =>
    rw [Part.lines, Part.statements, List.map_append, List.flatMap_append, List.flatMap_append,
      hfields]
    simp [Statement.text]

/-- What is known of the keys of a part. -/
structure Part.WellKeyed (p : Part) : Prop where
  header : ∀ key ∈ p.header, Bare key
  bare : ∀ key ∈ p.fields.map Prod.fst, Bare key
  nodup : (p.fields.map Prod.fst).Nodup

theorem Part.wellKeyed_of {p : Part} (header : Option String) (keys : List String)
    (hheader : p.header = header) (hkeys : p.fields.map Prod.fst = keys)
    (hbare : ∀ key ∈ header.toList ++ keys, Bare key) (hnodup : keys.Nodup) : p.WellKeyed := by
  subst hheader hkeys
  refine ⟨?_, ?_, hnodup⟩
  · intro key hkey
    exact hbare key (List.mem_append_left _ (Option.mem_toList.2 hkey))
  · intro key hkey
    exact hbare key (List.mem_append_right _ hkey)

theorem wellKeyed_topPart (c : Config) : c.topPart.WellKeyed :=
  Part.wellKeyed_of none ["profile", "psk", "cipher"] rfl rfl (by decide) (by decide)

theorem wellKeyed_tunablesPart (t : Tunables) : (tunablesPart t).WellKeyed :=
  Part.wellKeyed_of (some "tunables")
    ["frame_size", "max_recv_window", "max_stream_window", "tcp_read_buffer", "tcp_write_buffer",
      "tcp_keepalive_secs", "tcp_nodelay", "compression", "fragment_enabled", "obfuscation_enabled",
      "jitter_enabled"] rfl rfl (by decide) (by decide)

theorem wellKeyed_obfuscationPart (o : Obfuscation) : (obfuscationPart o).WellKeyed :=
  Part.wellKeyed_of (some "obfuscation")
    ["enabled", "min_padding", "max_padding", "min_delay_ms", "max_delay_ms"] rfl rfl (by decide)
    (by decide)

theorem wellKeyed_clientPart (s : ClientSection) : (clientPart s).WellKeyed :=
  Part.wellKeyed_of (some "client")
    ["server", "socks5_listen", "connect_timeout", "handshake_timeout"] rfl rfl (by decide)
    (by decide)

theorem wellKeyed_serverPart (s : ServerSection) : (serverPart s).WellKeyed :=
  Part.wellKeyed_of (some "server") ["listen", "max_connections", "connect_timeout"] rfl rfl
    (by decide) (by decide)

theorem wellKeyed_loggingPart (s : LoggingSection) : (loggingPart s).WellKeyed :=
  Part.wellKeyed_of (some "logging") ["level", "format", "stats_interval"] rfl rfl (by decide)
    (by decide)

theorem wellKeyed_parts (c : Config) : ∀ p ∈ c.parts, p.WellKeyed := by
  intro p hp
  simp only [parts, List.mem_append, List.mem_cons, Option.mem_toList,
    Option.map_eq_some_iff, List.not_mem_nil, or_false] at hp
  rcases hp with (((rfl | rfl | rfl) | ⟨s, -, rfl⟩) | ⟨s, -, rfl⟩) | rfl
  · exact wellKeyed_topPart c
  · exact wellKeyed_tunablesPart c.tunables
  · exact wellKeyed_obfuscationPart c.obfuscation
  · exact wellKeyed_clientPart s
  · exact wellKeyed_serverPart s
  · exact wellKeyed_loggingPart c.logging

/-- The lines of a part whose values can be written are legible. -/
theorem Part.legible {p : Part} (hp : p.WellKeyed) (hfits : ∀ f ∈ p.fields, f.2.fits) :
    ∀ st ∈ p.statements, st.Legible := by
  intro st hst
  rcases List.mem_append.1 hst with hst | hst
  · obtain ⟨key, hkey, rfl⟩ := Option.map_eq_some_iff.1 (Option.mem_toList.1 hst)
    exact hp.header key hkey
  · simp only [Document.Fields.statements, Part.written, List.map_map, List.mem_map] at hst
    obtain ⟨f, hf, rfl⟩ := hst
    exact ⟨hp.bare f.1 (List.mem_map_of_mem hf), reads_written (hfits f hf)⟩

/-! ## Documents -/

/-- The parts under headers. -/
def headedParts (c : Config) : List Part :=
  [tunablesPart c.tunables, obfuscationPart c.obfuscation] ++ (c.client.map clientPart).toList ++
    (c.server.map serverPart).toList ++ [loggingPart c.logging]

theorem parts_eq (c : Config) : c.parts = c.topPart :: c.headedParts := rfl

theorem header_headedParts (c : Config) : ∀ p ∈ c.headedParts, p.header.isSome := by
  intro p hp
  simp only [headedParts, List.mem_append, List.mem_cons, Option.mem_toList,
    Option.map_eq_some_iff, List.not_mem_nil, or_false] at hp
  rcases hp with (((rfl | rfl) | ⟨s, -, rfl⟩) | ⟨s, -, rfl⟩) | rfl <;> rfl

theorem statements_section {p : Part} (h : p.header.isSome) :
    p.section.statements = p.statements := by
  obtain ⟨header, hheader⟩ := Option.isSome_iff_exists.1 h
  rw [Part.section, Section.statements, Part.statements, hheader]
  rfl

/-- Each key at the top and each header stands once. -/
theorem nodup_keys (c : Config) :
    (c.topPart.written.map Prod.fst ++ (c.headedParts.map Part.section).map Section.key).Nodup := by
  cases hclient : c.client <;> cases hserver : c.server <;>
    simp [headedParts, hclient, hserver, topPart, Part.written, Part.section, tunablesPart,
      obfuscationPart, clientPart, serverPart, loggingPart]

/-- The table that a configuration is read back as. -/
def entries (c : Config) : Entries :=
  c.topPart.written.entries ++ (c.headedParts.map Part.section).map Section.entry

/-- **The table that was written is read back.** -/
theorem parse?_toText (h : c.toText = .ok text) : Toml.parse? text = some c.entries := by
  unfold toText at h
  split at h
  · rename_i hfits
    obtain rfl := Except.ok.inj h
    simp only [List.all_eq_true] at hfits
    have hstatements : c.topPart.written.statements ++
        (c.headedParts.map Part.section).flatMap Section.statements =
        c.parts.flatMap Part.statements := by
      have hheaded : c.headedParts.map (fun p => p.section.statements) =
          c.headedParts.map Part.statements := by
        refine List.map_congr_left ?_
        intro p hp
        exact statements_section (header_headedParts c p hp)
      rw [parts_eq, List.flatMap_cons, List.flatMap_map, List.flatMap_def, hheaded,
        ← List.flatMap_def]
      rfl
    have hlegible : ∀ st ∈ c.parts.flatMap Part.statements, st.Legible := by
      intro st hst
      obtain ⟨p, hp, hst⟩ := List.mem_flatMap.1 hst
      exact Part.legible (wellKeyed_parts c p hp) (hfits p hp) st hst
    rw [← hstatements] at hlegible
    refine parse?_sections ?_ hlegible (nodup_keys c) ?_
    · rw [hstatements, String.toList_join, List.flatMap_assoc, List.flatMap_assoc]
      exact congrArg (c.parts.flatMap ·) (funext flatMap_text_statements)
    · intro s hs
      obtain ⟨p, hp, rfl⟩ := List.mem_map.1 hs
      have hnodup := (wellKeyed_parts c p (List.mem_cons_of_mem _ hp)).nodup
      simpa [Part.section, Part.written, Function.comp_def] using hnodup
  · cases h

/-! ## Values -/

theorem value?_cons_self (key : String) (v : Value) (entries : Entries) :
    Entries.value? ((key, v) :: entries) key = some v := by
  simp [Entries.value?]

theorem value?_cons_of_ne {key other : String} (h : other ≠ key) (v : Value) (entries : Entries) :
    Entries.value? ((other, v) :: entries) key = entries.value? key := by
  simp [Entries.value?, h]

theorem value?_nil (key : String) : Entries.value? [] key = none := rfl

theorem read?_none {α : Type} (ofValue? : Value → Option α) (missing : α) :
    read? ofValue? missing none = some missing := rfl

theorem read?_some {α : Type} (ofValue? : Value → Option α) (missing : α) (v : Value) :
    read? ofValue? missing (some v) = ofValue? v := rfl

theorem text?_string (s : String) : text? (.string s) = some s := rfl

theorem switch?_boolean (b : Bool) : switch? (.boolean b) = some b := rfl

theorem number?_integer (n : UInt64) : number? (.integer n.toNat) = some n := by
  have hlt : n.toNat < UInt64.size := n.toNat_lt
  simp [number?, hlt]

theorem choice?_compression (m : Compression) :
    choice? Compression.ofName? (.string m.name) = some m := by
  cases m <;> rfl

theorem choice?_algorithm (a : Algorithm) :
    choice? Algorithm.ofName? (.string a.name) = some a := by
  cases a <;> rfl

/-- The keys of a part are what its values are looked up by. -/
theorem fields?_table (p : Part) : fields? p.table =
    some fun (key : String) (_ : Nat) =>
      Entries.value? (p.fields.map fun f => (f.1, f.2.value)) key := by
  rw [Part.table, Part.written, Document.Fields.entries, List.map_map]
  rfl

theorem tunables?_table (t : Tunables) : tunables? (tunablesPart t).table = some t := by
  simp [tunables?, fields?_table, tunablesPart, Field.value, value?_cons_self, value?_cons_of_ne,
    read?_some, number?_integer, switch?_boolean, choice?_compression]

theorem obfuscation?_table (o : Obfuscation) : obfuscation? (obfuscationPart o).table = some o := by
  simp [obfuscation?, fields?_table, obfuscationPart, Field.value, value?_cons_self,
    value?_cons_of_ne, read?_some, number?_integer, switch?_boolean]

theorem client?_table (s : ClientSection) : client? (clientPart s).table = some s := by
  simp [client?, fields?_table, clientPart, Field.value, value?_cons_self, value?_cons_of_ne,
    read?_some, text?_string, number?_integer]

theorem server?_table (s : ServerSection) : server? (serverPart s).table = some s := by
  simp [server?, fields?_table, serverPart, Field.value, value?_cons_self, value?_cons_of_ne,
    read?_some, text?_string, number?_integer]

theorem logging?_table (s : LoggingSection) : logging? (loggingPart s).table = some s := by
  simp [logging?, fields?_table, loggingPart, Field.value, value?_cons_self, value?_cons_of_ne,
    read?_some, text?_string, number?_integer]

/-- Under which keys the table of a configuration holds what. -/
theorem entries_eq (c : Config) :
    c.entries =
      [("profile", .string c.profile), ("psk", .string c.psk), ("cipher", .string c.cipher.name),
        ("tunables", (tunablesPart c.tunables).table),
        ("obfuscation", (obfuscationPart c.obfuscation).table)] ++
      (c.client.map fun s => ("client", (clientPart s).table)).toList ++
      (c.server.map fun s => ("server", (serverPart s).table)).toList ++
      [("logging", (loggingPart c.logging).table)] := by
  cases hclient : c.client <;> cases hserver : c.server <;>
    simp only [entries, headedParts, hclient, hserver] <;> rfl

/-- **The table of a configuration is read as the configuration.** -/
theorem ofEntries?_entries (c : Config) : ofEntries? c.entries = some c := by
  rw [entries_eq]
  obtain ⟨profile, psk, cipher, tunables, obfuscation, client, server, logging⟩ := c
  cases client <;> cases server <;>
    simp [ofEntries?, value?_cons_self, value?_cons_of_ne, value?_nil, read?_none, read?_some,
      text?_string, choice?_algorithm, tunables?_table, obfuscation?_table, client?_table,
      server?_table, logging?_table]

/-! ## Configurations -/

/-- The numbers in a configuration. -/
def numbers (c : Config) : List UInt64 :=
  [c.tunables.frameSize, c.tunables.recvWindow, c.tunables.streamWindow, c.tunables.readBuffer,
    c.tunables.writeBuffer, c.tunables.keepaliveSecs, c.obfuscation.minPadding,
    c.obfuscation.maxPadding, c.obfuscation.minDelayMs, c.obfuscation.maxDelayMs] ++
    c.client.toList.flatMap (fun s => [s.connectTimeout, s.handshakeTimeout]) ++
    c.server.toList.flatMap (fun s => [s.maxConnections, s.connectTimeout]) ++
    [c.logging.statsInterval]

/-- Only numbers are ever too large to be written. -/
theorem all_fits_iff (c : Config) :
    (c.parts.all fun p => p.fields.all fun f => f.2.fits) ↔
      ∀ n ∈ c.numbers, n.toNat ≤ 2 ^ 63 - 1 := by
  obtain ⟨profile, psk, cipher, tunables, obfuscation, client, server, logging⟩ := c
  cases client <;> cases server <;>
    simp [parts, numbers, topPart, tunablesPart, obfuscationPart, clientPart, serverPart,
      loggingPart, fits_number, fits_switch, fits_text, and_assoc]

/-- **Saving and loading are inverse.** A configuration whose numbers have at most 63 bits is
written as a text that is read as the very same configuration, whatever characters there are in its
strings, and this text is what is put into the file. One with a larger number is not saved, and the
host does not even notice. -/
theorem saved_is_loaded (c : Config) :
    ((∀ n ∈ c.numbers, n.toNat ≤ 2 ^ 63 - 1) →
      ∃ text, c.toText = .ok text ∧ Config.parse text = .ok c ∧
        ∀ (m : Type → Type) [Monad m] (host : Host m) (path : String),
          Program.save host c path = (do
            match ← host.writeFile path text with
            | .error e => return .error (.unwritable e)
            | .ok () => return .ok ())) ∧
    ((∃ n ∈ c.numbers, 2 ^ 63 - 1 < n.toNat) →
      ConfigFault.numberTooLarge.message = "Failed to serialize config" ∧
      ∀ (m : Type → Type) [Monad m] (host : Host m) (path : String),
        Program.save host c path = pure (.error .numberTooLarge)) := by
  constructor
  · intro hnumbers
    have hfits := (all_fits_iff c).2 hnumbers
    obtain ⟨text, htext⟩ : ∃ text, c.toText = .ok text := by
      rw [toText, if_pos hfits]
      exact ⟨_, rfl⟩
    refine ⟨text, htext, ?_, ?_⟩
    · rw [Config.parse, parse?_toText htext, Option.bind_some, ofEntries?_entries]
    · intro m _ host path
      unfold Program.save
      split
      · rename_i hfault
        exact absurd (htext.symm.trans hfault) nofun
      · rename_i written hwritten
        obtain rfl : written = text := Except.ok.inj (hwritten.symm.trans htext)
        rfl
  · rintro ⟨n, hn, hlarge⟩
    have hfits : ¬c.parts.all fun p => p.fields.all fun f => f.2.fits := by
      intro hfits
      exact absurd ((all_fits_iff c).1 hfits n hn) (Nat.not_le.2 hlarge)
    refine ⟨rfl, ?_⟩
    intro m _ host path
    rw [Program.save, toText, if_neg hfits]

/-- A key with quotation marks of both kinds, a backslash, a line break and a control character,
which no way of quoting takes as it is, and a number that is one too large. -/
theorem saved_is_loaded_awkward :
    (∃ text, ({ starter with psk := "a'''b\"c\\d\ne\x00" } : Config).toText = .ok text ∧
      Config.parse text = .ok { starter with psk := "a'''b\"c\\d\ne\x00" }) ∧
    Program.save Memory.host { logging := { statsInterval := 9223372036854775808 } } "a.toml" =
      pure (.error .numberTooLarge) := by
  constructor
  · have hnumbers : ({ starter with psk := "a'''b\"c\\d\ne\x00" } : Config).numbers.all
        fun n => n.toNat ≤ 2 ^ 63 - 1 := by
      decide
    obtain ⟨text, htext, hparse, -⟩ := (saved_is_loaded _).1 fun n hn =>
      of_decide_eq_true (List.all_eq_true.1 hnumbers n hn)
    exact ⟨text, htext, hparse⟩
  · refine ((saved_is_loaded _).2 ⟨9223372036854775808, ?_, by decide⟩).2 _ _ _
    decide

end Config

end SealedTunnel
