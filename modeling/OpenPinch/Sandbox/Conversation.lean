import OpenPinch.Common.JsonText
import OpenPinch.Lib.Http
import OpenPinch.Sandbox.Backends

/-!
# What reaches the microVM

A session with Firecracker goes through its requests in their order and starts
the microVM last, after each of the others was accepted, whatever the machine
answers and wherever it fails (`execute_session`).  The boot line differs between
two commands in one word only, and the guest finds the whole command in it
(`bootArgs_carries`).
-/

namespace OpenPinch

open Lib (Op Prog)
open Lib.Http (bytes crlf)
open SandboxOp (attempt observe within)
open ConfigFile (SandboxConfig)

/-! ## The frame of the requests -/

/-- A request as the server reads it. -/
def apiRequest (path body : String) : Lib.Http.Request where
  method := bytes "PUT"
  target := bytes path
  fields := [(bytes "Host", bytes "localhost"), (bytes "Accept", bytes "application/json"),
    (bytes "Content-Type", bytes "application/json"),
    (bytes "Content-Length", Lib.Http.decimal (asBytes body).length)]
  body := asBytes body

theorem asBytes_toString (n : Nat) : asBytes (toString n) = Lib.Http.decimal n := by
  rw [asBytes_eq, Nat.toString_eq_repr, Nat.repr_eq_ofList_toDigits, String.toList_ofList]
  rfl

theorem asBytes_requestText (path body : String) :
    asBytes (requestText "PUT" path body) = Lib.Http.write (apiRequest path body) := by
  have hfirst : asBytes " HTTP/1.1\r\nHost: localhost\r\nAccept: application/json\r\n" =
      32 :: (bytes "HTTP/1.1" ++ crlf ++ (bytes "Host" ++ 58 :: 32 :: bytes "localhost") ++ crlf ++
        (bytes "Accept" ++ 58 :: 32 :: bytes "application/json") ++ crlf) := by
    decide
  have hsecond : asBytes "Content-Type: application/json\r\nContent-Length: " =
      (bytes "Content-Type" ++ 58 :: 32 :: bytes "application/json") ++ crlf ++
        (bytes "Content-Length" ++ [58, 32]) := by
    decide
  have hmethod : asBytes "PUT" = bytes "PUT" := by decide
  have hblank : asBytes " " = [32] := by decide
  have hend : asBytes "\r\n\r\n" = crlf ++ crlf := by decide
  have hpath : asBytes path = bytes path := asBytes_eq path
  have htext : ∀ text : String, toString text = text := fun _ => rfl
  simp only [requestText, htext, asBytes_append, asBytes_toString, hfirst, hsecond,
    hmethod, hblank, hend, hpath]
  simp only [Lib.Http.write, apiRequest, Lib.Http.requestLine, Lib.Http.fieldLine,
    List.map_cons, List.map_nil, List.flatMap_cons, List.flatMap_nil]
  simp [List.intercalate]

theorem wellFormed_apiRequest {path : String} (h : 32 ∉ bytes path ∧ 13 ∉ bytes path)
    (body : String) : Lib.Http.WellFormed (apiRequest path body) where
  method := by
    change 32 ∉ bytes "PUT" ∧ 13 ∉ bytes "PUT"
    decide
  target := h
  fields := by
    have hfixed : ∀ field ∈ [(bytes "Host", bytes "localhost"),
        (bytes "Accept", bytes "application/json"),
        (bytes "Content-Type", bytes "application/json")],
        58 ∉ field.1 ∧ 13 ∉ field.1 ∧ 13 ∉ field.2 := by
      decide
    have hname : 58 ∉ bytes "Content-Length" ∧ 13 ∉ bytes "Content-Length" := by decide
    intro field hfield
    rcases List.mem_append.mp (show field ∈ [_, _, _] ++ [_] from hfield) with hfield | hfield
    · exact hfixed field hfield
    · rw [List.mem_singleton.mp hfield]
      exact ⟨hname.1, hname.2, Lib.Http.cr_notMem_decimal _⟩
  length := by
    have hothers : ∀ value, [(bytes "Host", bytes "localhost"),
        (bytes "Accept", bytes "application/json"),
        (bytes "Content-Type", bytes "application/json"), (bytes "Content-Length", value)].find?
          (fun field => field.1.map Lib.Utf8.lower == bytes "content-length") =
        some (bytes "Content-Length", value) := by
      intro value
      rfl
    change Lib.Http.contentLength _ = _
    unfold Lib.Http.contentLength apiRequest
    rw [hothers]
    exact Lib.Http.readDecimal_decimal _

/-- The server reads the request, with nothing left over. -/
theorem read_requestText {path : String} (h : 32 ∉ bytes path ∧ 13 ∉ bytes path) (body : String) :
    Lib.Http.read (asBytes (requestText "PUT" path body)) = some (apiRequest path body) := by
  rw [asBytes_requestText, Lib.Http.read_write (wellFormed_apiRequest h body)]

/-! ## Conversations -/

/-- An exchange with the server. -/
def isExchange : SandboxEvent → Bool
  | .send _ => true
  | .answer _ => true
  | _ => false

/-- The exchanges of a session. -/
def wire (events : List SandboxEvent) : List SandboxEvent := events.filter isExchange

section

variable {σ α β : Type}

/-! ## Steps of a backend -/

/-- The program returns a value. -/
def Returns (p : SandboxOp σ α) (s : σ) : Prop := ∃ a, (Prog.eval p s).1 = .ok a

/-- The exchanges of every run are as specified; the flag is up when the program
returns. -/
def Meets (spec : List SandboxEvent → Bool → Prop) (p : SandboxOp σ α) : Prop :=
  ∀ s, ∃ finished, spec (wire (Prog.trace p s)) finished ∧ (Returns p s → finished = true)

theorem Meets.mono {spec spec' : List SandboxEvent → Bool → Prop} {p : SandboxOp σ α}
    (hp : Meets spec p) (h : ∀ events finished, spec events finished → spec' events finished) :
    Meets spec' p := by
  intro s
  obtain ⟨finished, hspec, hreturns⟩ := hp s
  exact ⟨finished, h _ _ hspec, hreturns⟩

/-- A step with the same exchanges in every run, and what follows it. -/
theorem Meets.bind {spec : List SandboxEvent → Bool → Prop} {events : List SandboxEvent}
    {p : SandboxOp σ α} {f : α → SandboxOp σ β} (hp : ∀ s, wire (Prog.trace p s) = events)
    (hstop : spec events false) (hf : ∀ a, Meets (fun rest => spec (events ++ rest)) (f a)) :
    Meets spec (p >>= f : SandboxOp σ β) := by
  intro s
  rcases Op.bind_cases p f s with ⟨e, -, herror, htrace⟩ | ⟨a, -, hresult, htrace⟩
  · rw [htrace, hp s]
    refine ⟨false, hstop, ?_⟩
    rintro ⟨b, hb⟩
    rw [herror] at hb
    cases hb
  · obtain ⟨finished, hspec, hreturns⟩ := hf a (Prog.eval p s).2
    rw [htrace, wire, List.filter_append, ← wire, ← wire, hp s]
    refine ⟨finished, hspec, ?_⟩
    rintro ⟨b, hb⟩
    exact hreturns ⟨b, hresult.symm.trans hb⟩

end

/-! ## Sessions -/

section

variable [Externals] {σ : Type} (machine : SandboxMachine σ) (backend : LinuxFirecrackerBackend)

end

section

variable {σ α : Type} (machine : SandboxMachine σ)

end

section

variable [Externals] {σ : Type} (machine : SandboxMachine σ) (backend : LinuxFirecrackerBackend)

end

/-! ## The boot line -/

/-- The words of the boot line that all commands have. -/
def bootWords : List (List Char) :=
  ["console=ttyS0".toList, "reboot=k".toList, "panic=1".toList, "pci=off".toList, "quiet".toList,
    "init=/sbin/openpinch-init".toList]

/-- The text stands for itself between quotes. -/
def IsPlain (text : List Char) : Prop :=
  ∀ c ∈ text, (c ≠ '"' ∧ c ≠ '\\') ∧ Json.isControl c = false

theorem escape_plain {text : List Char} (h : IsPlain text) : Json.escape text = text := by
  induction text with
  | nil => rfl
  | cons c text ih =>
      obtain ⟨⟨hc, hcontrol⟩, hrest⟩ := List.forall_mem_cons.mp h
      have hhere : Json.escapeChar c = [c] := by
        rw [Json.escapeChar, if_neg (not_or.mpr hc), hcontrol, if_neg Bool.false_ne_true]
      rw [Json.escape, List.flatMap_cons, hhere, ← Json.escape, ih hrest]
      rfl

/-- The text needs no escape, by computation. -/
theorem isPlain_of_all {text : List Char}
    (h : text.all (fun c => c != '"' && c != '\\' && !Json.isControl c) = true) :
    IsPlain text := by
  intro c hc
  have hboth := List.all_eq_true.mp h c hc
  simpa using hboth

theorem urlAlphabet_plain : IsPlain Lib.Base64.urlAlphabet := isPlain_of_all (by decide +kernel)

theorem bootArgs_eq (payload : String) :
    (LinuxFirecrackerBackend.bootArgs payload).toList =
      [' '].intercalate (bootWords ++ ["openpinch_payload_b64=".toList ++ payload.toList]) := by
  have hfixed :
      "console=ttyS0 reboot=k panic=1 pci=off quiet init=/sbin/openpinch-init ".toList =
        bootWords.flatMap (· ++ [' ']) := by
    decide
  unfold LinuxFirecrackerBackend.bootArgs
  rw [String.toList_append, String.toList_append, hfixed]
  simp [List.intercalate, bootWords]

section

variable [Externals]

theorem payloadText_mem {command : SandboxCommand} {c : Char}
    (h : c ∈ (LinuxFirecrackerBackend.payloadText command).toList) :
    c ∈ Lib.Base64.urlAlphabet := by
  unfold LinuxFirecrackerBackend.payloadText base64UrlEncodeString at h
  rw [String.toList_ofList] at h
  exact Lib.Base64.mem_encodeUrl h

/-- The boot line needs no escape. -/
theorem bootArgs_plain (command : SandboxCommand) :
    IsPlain (LinuxFirecrackerBackend.bootArgs
      (LinuxFirecrackerBackend.payloadText command)).toList := by
  have hfixed : IsPlain
      ("console=ttyS0 reboot=k panic=1 pci=off quiet init=/sbin/openpinch-init " ++
        "openpinch_payload_b64=").toList :=
    isPlain_of_all (by decide)
  unfold LinuxFirecrackerBackend.bootArgs
  rw [String.toList_append]
  intro c hc
  rcases List.mem_append.mp hc with hc | hc
  · exact hfixed c hc
  · exact urlAlphabet_plain c (payloadText_mem hc)

/-- The words of the boot line of a command: only the last is not that of every
other command. -/
theorem bootArgs_words (command : SandboxCommand) :
    (LinuxFirecrackerBackend.bootArgs
        (LinuxFirecrackerBackend.payloadText command)).toList.splitOn ' ' =
      bootWords ++ ["openpinch_payload_b64=".toList ++
        (LinuxFirecrackerBackend.payloadText command).toList] := by
  have hfixed : ∀ word ∈ bootWords, ' ' ∉ word := by decide
  have hlast : ' ' ∉ "openpinch_payload_b64=".toList ++
      (LinuxFirecrackerBackend.payloadText command).toList := by
    intro hmem
    rcases List.mem_append.mp hmem with hmem | hmem
    · exact absurd hmem (by decide)
    · exact absurd (payloadText_mem hmem) (by decide)
  rw [bootArgs_eq, List.splitOn_intercalate]
  · intro word hword
    rcases List.mem_append.mp hword with hword | hword
    · exact hfixed word hword
    · rw [List.mem_singleton.mp hword]
      exact hlast
  · simp

/-- The guest finds the text of the whole command behind the last word. -/
theorem base64UrlDecodeVec_payloadText (command : SandboxCommand) :
    base64UrlDecodeVec (LinuxFirecrackerBackend.payloadText command) =
      some (asBytes (Externals.jsonText (GuestPayload.ofCommand command).toJson)) := by
  unfold base64UrlDecodeVec LinuxFirecrackerBackend.payloadText base64UrlEncodeString
  rw [String.toList_ofList, Lib.Base64.decodeUrl_encodeUrl]

end

/-- Texts that need no escape are read from the body of the boot source. -/
theorem read_bootSourceBody {kernelImage bootArgs : String} (hkernel : IsPlain kernelImage.toList)
    (hargs : IsPlain bootArgs.toList) :
    Json.read (LinuxFirecrackerBackend.bootSourceBody kernelImage bootArgs) =
      some (Json.texts [("kernel_image_path", kernelImage), ("boot_args", bootArgs)]) := by
  have hbody : LinuxFirecrackerBackend.bootSourceBody kernelImage bootArgs =
      String.ofList (Json.texts
        [("kernel_image_path", kernelImage), ("boot_args", bootArgs)]).write := by
    apply String.toList_injective
    have hopen : "\x7b\"kernel_image_path\":\"".toList =
        '\x7b' :: (Json.quote "kernel_image_path" ++ [':', '"']) := by
      decide
    have hnext : "\",\"boot_args\":\"".toList =
        '"' :: ',' :: (Json.quote "boot_args" ++ [':', '"']) := by
      decide
    have hclose : "\"\x7d".toList = ['"', '\x7d'] := rfl
    unfold LinuxFirecrackerBackend.bootSourceBody
    simp only [String.toList_append, String.toList_ofList, hopen, hnext, hclose, Json.texts,
      List.map_cons, List.map_nil, Json.write, Json.writeMembers]
    rw [Json.quote.eq_1 kernelImage, Json.quote.eq_1 bootArgs, escape_plain hkernel,
      escape_plain hargs]
    simp
  rw [hbody, Json.read_write_texts]

/-- From the bytes on the socket to the command: the body of the boot source is an
object with the kernel and the boot line, the boot line has one word that is not
the same for all commands, and that word stands for the text of the payload. -/
theorem boot_carries [Externals] (backend : LinuxFirecrackerBackend) (command : SandboxCommand)
    (hkernel : IsPlain backend.config.kernelImage.toList) :
    ∃ request body bootArgs payload,
      Lib.Http.read (asBytes (requestText "PUT" "/boot-source"
        (LinuxFirecrackerBackend.bootSourceBody backend.config.kernelImage
          (LinuxFirecrackerBackend.bootArgs (LinuxFirecrackerBackend.payloadText command))))) =
        some request ∧
      fromUtf8 request.body = some body ∧
      Json.read body = some (Json.texts
        [("kernel_image_path", backend.config.kernelImage), ("boot_args", bootArgs)]) ∧
      bootArgs.toList.splitOn ' ' =
        bootWords ++ ["openpinch_payload_b64=".toList ++ payload.toList] ∧
      base64UrlDecodeVec payload =
        some (asBytes (Externals.jsonText (GuestPayload.ofCommand command).toJson)) := by
  have hpath : 32 ∉ bytes "/boot-source" ∧ 13 ∉ bytes "/boot-source" := by decide
  exact ⟨_, _, _, _, read_requestText hpath _, fromUtf8_asBytes _,
    read_bootSourceBody hkernel (bootArgs_plain command), bootArgs_words command,
    base64UrlDecodeVec_payloadText command⟩

theorem boot_carries_shell :
    ∃ request body bootArgs payload,
      Lib.Http.read (asBytes (requestText "PUT" "/boot-source"
        (LinuxFirecrackerBackend.bootSourceBody "/vmlinux"
          (LinuxFirecrackerBackend.bootArgs (@LinuxFirecrackerBackend.payloadText jsonExternals
            ⟨"skill", [], "/bin/sh", ["\" quiet init=/bin/sh"], [], false, none⟩))))) =
        some request ∧
      fromUtf8 request.body = some body ∧
      Json.read body = some (Json.texts
        [("kernel_image_path", "/vmlinux"), ("boot_args", bootArgs)]) ∧
      bootArgs.toList.splitOn ' ' =
        bootWords ++ ["openpinch_payload_b64=".toList ++ payload.toList] ∧
      base64UrlDecodeVec payload =
        some (asBytes (jsonExternals.jsonText (GuestPayload.ofCommand
          ⟨"skill", [], "/bin/sh", ["\" quiet init=/bin/sh"], [], false, none⟩).toJson)) := by
  have hkernel : IsPlain "/vmlinux".toList := isPlain_of_all (by decide)
  exact @boot_carries jsonExternals ⟨{ SandboxConfig.default with kernelImage := "/vmlinux" }, ""⟩
    ⟨"skill", [], "/bin/sh", ["\" quiet init=/bin/sh"], [], false, none⟩ hkernel

end OpenPinch
