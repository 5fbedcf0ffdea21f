import SpiWifi.Cli.Run
import SpiWifi.Proofs.Cli.Meaning
import SpiWifi.Proofs.Document.Json
import SpiWifi.Proofs.Wire.Sizes

/-!
# Decoding what was encoded

Arguments describe the parameters of a command's frame. The program writes a frame for them just if
the frame is not too large, and given the line that it wrote, it reports the command and those
parameters.
-/

namespace SpiWifi.Cli

def frameWidth (reply : Bool) (c : Command) : Width := if reply then c.replyWidth else c.requestWidth

def frameWith (reply : Bool) (c : Command) (ps : List Bytes) : Frame :=
  { emptyFrame reply c with params := ps }

/-- The arguments stand for the command and for parameters that fit its frame. -/
structure Describes (name : String) (arguments : List String) (reply : Bool) (c : Command)
    (ps : List Bytes) : Prop where
  calls : Calls name c
  denotes : List.Forall₂ Denotes arguments ps
  size : (ps.map fun p => (frameWidth reply c).lengthSize + p.length).sum ≤ 248

section
variable (reply : Bool) (c : Command) (ps : List Bytes)

theorem width_frameWith : (frameWith reply c ps).width = frameWidth reply c := by
  cases reply <;> rfl

/-- The reply bit is no part of an opcode. -/
theorem opcode_frameWith : (frameWith reply c ps).opcode = c.opcode := by
  have free : ∀ c ∈ Command.all,
      c.opcode &&& 0x7f &&& 0x7f = c.opcode ∧ (c.opcode ||| replyBit) &&& 0x7f = c.opcode := by
    decide +kernel
  obtain ⟨command, answer⟩ := free c (Command.mem_all c)
  cases reply with
  | false => exact command
  | true => exact answer

theorem isReply_frameWith : (frameWith reply c ps).isReply = reply := by
  have told : ∀ c ∈ Command.all, (c.opcode &&& 0x7f &&& replyBit != 0) = false ∧
      ((c.opcode ||| replyBit) &&& replyBit != 0) = true := by
    decide +kernel
  obtain ⟨command, answer⟩ := told c (Command.mem_all c)
  cases reply with
  | false => exact command
  | true => exact answer

theorem command?_frameWith : (frameWith reply c ps).command? = some c :=
  Command.ofOpcode?_eq_some_iff.mpr (opcode_frameWith reply c ps).symm

theorem fits_frameWith_iff :
    (frameWith reply c ps).Fits ↔
      (ps.map fun p => (frameWidth reply c).lengthSize + p.length).sum ≤ 248 := by
  rw [Frame.fits_iff_size, Frame.paramsSize, width_frameWith, ← List.sum_eq_foldr]
  rfl

end

/-- Parameters are put behind those that a frame has, one for each argument. -/
theorem foldlM_withParam_eq_ok_iff {arguments : List String} {f g : Frame} :
    arguments.foldlM (fun f p => (parameterBytes p).map f.withParam) f = .ok g ↔
      ∃ ps, List.Forall₂ Denotes arguments ps ∧ g = { f with params := f.params ++ ps } := by
  induction arguments generalizing f with
  | nil =>
    simp only [List.foldlM_nil, List.forall₂_nil_left_iff, exists_eq_left, List.append_nil]
    exact ⟨fun h => (Except.ok.inj h).symm, fun h => h ▸ rfl⟩
  | cons argument arguments ih =>
    rw [List.foldlM_cons]
    constructor
    · intro h
      cases hbytes : parameterBytes argument with
      | error e =>
        rw [hbytes] at h
        cases h
      | ok p =>
        rw [hbytes] at h
        obtain ⟨ps, hps, rfl⟩ := ih.mp h
        exact ⟨p :: ps, .cons (parameterBytes_eq_ok_iff.mp hbytes) hps, by simp [Frame.withParam]⟩
    · rintro ⟨ps, hps, rfl⟩
      obtain ⟨p, rest, hp, hrest, rfl⟩ := List.forall₂_cons_left_iff.mp hps
      rw [parameterBytes_eq_ok_iff.mpr hp]
      exact ih.mpr ⟨rest, hrest, by simp [Frame.withParam]⟩

theorem frameOf_eq_ok_iff {name : String} {arguments : List String} {reply : Bool} {f : Frame} :
    frameOf name arguments reply = .ok f ↔
      ∃ c ps, Calls name c ∧ List.Forall₂ Denotes arguments ps ∧ f = frameWith reply c ps := by
  have noParams : ∀ c, (emptyFrame reply c).params = [] := fun c => by cases reply <;> rfl
  constructor
  · intro h
    cases hcommand : commandOf name with
    | error e =>
      rw [frameOf, hcommand] at h
      cases h
    | ok c =>
      rw [frameOf, hcommand] at h
      obtain ⟨ps, hps, hf⟩ := foldlM_withParam_eq_ok_iff.mp h
      rw [noParams] at hf
      exact ⟨c, ps, commandOf_eq_ok_iff.mp hcommand, hps, hf⟩
  · rintro ⟨c, ps, hcommand, hps, rfl⟩
    rw [frameOf, commandOf_eq_ok_iff.mpr hcommand]
    exact foldlM_withParam_eq_ok_iff.mpr ⟨ps, hps, by rw [noParams]; rfl⟩

/-- A frame is written just for arguments that describe it. -/
theorem encodeFrame_eq_ok_iff {name : String} {arguments : List String} {reply : Bool} {f : Frame}
    {bytes : Bytes} :
    encodeFrame name arguments reply = .ok (f, bytes) ↔
      ∃ c ps, Describes name arguments reply c ps ∧ f = frameWith reply c ps ∧ bytes = f.bytes := by
  constructor
  · intro h
    cases hframe : frameOf name arguments reply with
    | error e =>
      rw [encodeFrame, hframe] at h
      cases h
    | ok g =>
      rw [encodeFrame, hframe] at h
      dsimp only [bind, Except.bind] at h
      split at h
      · next found hencode =>
        cases h
        obtain ⟨c, ps, calls, denotes, rfl⟩ := frameOf_eq_ok_iff.mp hframe
        obtain ⟨fits, rfl⟩ := Frame.encode_ok_iff.mp hencode
        exact ⟨c, ps, ⟨calls, denotes, (fits_frameWith_iff reply c ps).mp fits⟩, rfl, rfl⟩
      · cases h
  · rintro ⟨c, ps, described, rfl, rfl⟩
    have hframe : frameOf name arguments reply = .ok (frameWith reply c ps) :=
      frameOf_eq_ok_iff.mpr ⟨c, ps, described.calls, described.denotes, rfl⟩
    have hencode := Frame.encode_ok_iff.mpr ⟨(fits_frameWith_iff reply c ps).mpr described.size, rfl⟩
    rw [encodeFrame, hframe]
    dsimp only [bind, Except.bind]
    rw [hencode]
    rfl

/-- A text that spells the bytes of a frame is taken apart into it. -/
theorem decodeFrame_of_hexBytes {reply : Bool} {c : Command} {ps : List Bytes} {text : String}
    (fits : (frameWith reply c ps).Fits) (read : hexBytes text = .ok (frameWith reply c ps).bytes) :
    decodeFrame text reply = .ok (frameWith reply c ps) := by
  have known : ∀ widthOf : Command → Width, frameWidth reply c = widthOf c →
      (frameWith reply c ps).width =
        ((frameWith reply c ps).command?.map widthOf).getD .narrow := by
    intro widthOf h
    rw [command?_frameWith, width_frameWith, h]
    rfl
  obtain ⟨-, command, answer⟩ := Frame.decode_noise_encode_append
    (Frame.encode_ok_iff.mpr ⟨fits, rfl⟩) (Nat.zero_le _) (List.forall_mem_nil _) []
  rw [List.nil_append, List.append_nil] at command answer
  rw [decodeFrame, read]
  dsimp only [bind, Except.bind]
  cases reply with
  | false =>
    rw [if_neg Bool.false_ne_true, command (known _ rfl)]
    rfl
  | true =>
    rw [if_pos rfl, answer (known _ rfl)]
    rfl

def switchArguments (reply json : Bool) : List String :=
  (if reply then ["--reply"] else []) ++ if json then ["--json"] else []

def decodeArguments (line : String) (reply json : Bool) : List String :=
  "decode" :: (switchArguments reply json ++ [line])

/-- The lines that report a command, or its reply, with its parameters. -/
def report (reply : Bool) (c : Command) (ps : List Bytes) : List String :=
  ((if reply then "reply " else "command ") ++ c.name ++ " " ++ Text.Hex.literal c.opcode
      ++ " (" ++ (frameWidth reply c).name ++ ", " ++ toString ps.length ++ " params)")
    :: ps.mapIdx fun index p =>
      "  #" ++ toString index ++ " [" ++ toString p.length ++ "] " ++ Text.Hex.encode p

def reportDocument (reply : Bool) (c : Command) (ps : List Bytes) : Document :=
  .record
    [ (some "command", .text (some c.name)),
      (some "opcode", .number c.opcode.toNat),
      (some "params", .list (ps.map fun p => .text (some (Text.Hex.encode p)))),
      (some "reply", .flag reply),
      (some "width", .text (some (frameWidth reply c).name)) ]

theorem frameLines_frameWith (reply : Bool) (c : Command) (ps : List Bytes) :
    frameLines (frameWith reply c ps) = report reply c ps := by
  simp only [frameLines, frameName, command?_frameWith, isReply_frameWith, opcode_frameWith,
    width_frameWith, report]
  exact List.append_nil _

theorem frameDocument_frameWith (reply : Bool) (c : Command) (ps : List Bytes) :
    frameDocument (frameWith reply c ps) = reportDocument reply c ps := by
  simp only [frameDocument, frameName, command?_frameWith, isReply_frameWith, opcode_frameWith,
    width_frameWith, reportDocument]
  rfl

theorem isPlain_reportDocument (reply : Bool) (c : Command) (ps : List Bytes) :
    Document.Json.IsPlain (reportDocument reply c ps) := by
  have params : Document.Json.IsPlain (.list (ps.map fun p => .text (some (Text.Hex.encode p)))) := by
    refine .list fun d hd => ?_
    obtain ⟨p, -, rfl⟩ := List.mem_map.mp hd
    exact .text _
  refine .record (by simp) ?_
  simp only [List.forall_mem_cons]
  exact ⟨.text _, .number _, params, .flag _, .text _, List.forall_mem_nil _⟩

theorem takeArgument_word {grammar : Grammar} {g : Given} {word : String}
    (waiting : g.waiting = none) (hword : word.toList.head? ≠ some '-') :
    takeArgument grammar g word = takeWord grammar g word := by
  unfold takeArgument
  split
  · rfl
  · split
    · next h => exact absurd (by rw [h]; rfl) hword
    · next h => exact absurd (by rw [h]; rfl) hword
    · next h => exact absurd (by rw [h]; rfl) hword
    · rw [waiting]

theorem takeAll_append_word {grammar : Grammar} {g : Given} {arguments : List String} {word : String}
    (taken : arguments.foldlM (takeArgument grammar) Given.none = .ok g) (waiting : g.waiting = none)
    (room : grammar.wordLimit.any (· ≤ g.words.length) = false)
    (hword : word.toList.head? ≠ some '-') :
    takeAll grammar (arguments ++ [word]) = .ok { g with words := g.words ++ [word] } := by
  have hlast : takeArgument grammar g word = .ok { g with words := g.words ++ [word] } := by
    rw [takeArgument_word waiting hword, takeWord, room]
    rfl
  have hall : (arguments ++ [word]).foldlM (takeArgument grammar) Given.none
      = .ok { g with words := g.words ++ [word] } := by
    rw [List.foldlM_append, taken]
    change [word].foldlM (takeArgument grammar) g = _
    rw [List.foldlM_cons, hlast]
    rfl
  rw [takeAll, hall]
  change (if Option.isSome g.waiting then _ else _) = _
  rw [waiting]
  rfl

theorem foldlM_switchArguments (reply json : Bool) :
    (switchArguments reply json).foldlM (takeArgument Request.decodeGrammar) Given.none =
      .ok ⟨(if reply then [("reply", "")] else []) ++ (if json then [("json", "")] else []), [],
        none, false⟩ := by
  cases reply <;> cases json <;> rfl

theorem ofArguments_decodeArguments {line : String} (word : line.toList.head? ≠ some '-')
    (reply json : Bool) :
    Request.ofArguments (decodeArguments line reply json) = .decode line reply json := by
  change Request.ofGiven Request.decodeGrammar _ Request.ofDecode = _
  rw [Request.ofGiven, takeAll_append_word (foldlM_switchArguments reply json) rfl rfl word]
  cases reply <;> cases json <;> rfl

theorem exit_encode_eq_zero_iff {name : String} {params : List String} {reply : Bool} :
    (encode name params reply).exit = 0 ↔ ∃ c ps, Describes name params reply c ps := by
  constructor
  · intro h
    cases hencode : encodeFrame name params reply with
    | error e =>
      rw [encode, hencode] at h
      cases h
    | ok written =>
      obtain ⟨c, ps, described, -, -⟩ := encodeFrame_eq_ok_iff.mp hencode
      exact ⟨c, ps, described⟩
  · rintro ⟨c, ps, described⟩
    rw [encode, encodeFrame_eq_ok_iff.mpr ⟨c, ps, described, rfl, rfl⟩]
    rfl

/-- A text that spells the bytes of a frame is decoded into the report of the frame. -/
theorem decode_of_hexBytes {reply : Bool} {c : Command} {ps : List Bytes} {text : String}
    (fits : (frameWith reply c ps).Fits) (read : hexBytes text = .ok (frameWith reply c ps).bytes)
    (json : Bool) :
    decode text reply json =
      .done (unlines (if json then [Document.Json.write (reportDocument reply c ps)]
        else report reply c ps)) "" := by
  rw [decode, decodeFrame_of_hexBytes fits read, ← frameLines_frameWith, ← frameDocument_frameWith]
  cases json <;> rfl

/-- Encoding succeeds just for arguments that describe a frame. It writes a line that can be given
back as an argument, and decoding the line in the same direction succeeds and reports the command, the
direction, the width, and in order the parameters that the arguments denote. -/
theorem decode_undoes_encode (env : Environment) (files : FileReader)
    {arguments params : List String} {name : String} {reply : Bool}
    (asked : Request.ofArguments arguments = .encode name params reply) :
    ((run env files arguments).exit = 0 ↔ ∃ c ps, Describes name params reply c ps) ∧
    ∀ c ps, Describes name params reply c ps →
      ∃ line, (run env files arguments).stdout = unlines [line] ∧
        (∀ json, Request.ofArguments (decodeArguments line reply json) = .decode line reply json) ∧
        ∀ env files arguments,
          (Request.ofArguments arguments = .decode line reply false →
            run env files arguments = .done (unlines (report reply c ps)) "") ∧
          (Request.ofArguments arguments = .decode line reply true →
            ∃ text, run env files arguments = .done text "" ∧
              Document.Json.read? text = some (reportDocument reply c ps)) := by
  rw [run, asked]
  refine ⟨exit_encode_eq_zero_iff, fun c ps described => ?_⟩
  have fits := (fits_frameWith_iff reply c ps).mpr described.size
  refine ⟨Text.Hex.encode (frameWith reply c ps).bytes, ?_, ?_, fun env files arguments => ⟨?_, ?_⟩⟩
  · rw [serve, encode, encodeFrame_eq_ok_iff.mpr ⟨c, ps, described, rfl, rfl⟩]
    rfl
  · refine ofArguments_decodeArguments (fun dash => ?_) reply
    rw [Text.Hex.encode, String.toList_ofList] at dash
    cases dash
  · intro again
    rw [run, again, serve, decode_of_hexBytes fits (hexBytes_encode _)]
    rfl
  · intro again
    refine ⟨_, by rw [run, again, serve, decode_of_hexBytes fits (hexBytes_encode _)], ?_⟩
    exact Document.Json.read?_write (isPlain_reportDocument reply c ps) "\n"
      (by simp [Document.Json.isSpace])

/-- The reply to a connection attempt, its command called by the opcode of the reply, with a parameter
of every kind. -/
theorem decode_undoes_encode_every_kind :
    let env : Environment := fun _ => none
    let files : FileReader := fun _ => .error .missing
    let ps : List Bytes :=
      [[0x0a, 0x0b], [7], [1, 2], [1, 2, 3, 4], [10, 0, 0, 5], [0x68, 0xc3, 0xa9]]
    ∃ line, (run env files ["encode", "-r", "0xad", "0x0A 0b", "u8:7", "u16:258", "u32:16909060",
        "ip:10.0.0.5", "str:hé"]).stdout = unlines [line] ∧
      run env files ["decode", "--reply", line] =
        .done (unlines (report true .startClientTcp ps)) "" := by
  intro env files ps
  have asked : Request.ofArguments ["encode", "-r", "0xad", "0x0A 0b", "u8:7", "u16:258",
      "u32:16909060", "ip:10.0.0.5", "str:hé"] = .encode "0xad" ["0x0A 0b", "u8:7", "u16:258",
        "u32:16909060", "ip:10.0.0.5", "str:hé"] true := by rfl
  have taken : ∀ {argument : String} {p : Bytes},
      parameterBytes argument = .ok p → Denotes argument p := parameterBytes_eq_ok_iff.mp
  have denotes : List.Forall₂ Denotes ["0x0A 0b", "u8:7", "u16:258", "u32:16909060", "ip:10.0.0.5",
      "str:hé"] ps :=
    .cons (taken rfl) (.cons (taken rfl) (.cons (taken rfl) (.cons (taken rfl) (.cons (taken rfl)
      (.cons (taken rfl) .nil)))))
  obtain ⟨-, written⟩ := decode_undoes_encode env files asked
  obtain ⟨line, hline, again, reported⟩ :=
    written .startClientTcp ps ⟨commandOf_eq_ok_iff.mp rfl, denotes, by decide⟩
  exact ⟨line, hline, (reported env files _).1 (again false)⟩

end SpiWifi.Cli
