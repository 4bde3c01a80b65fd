import IotMonitoring.Server.State
import IotMonitoring.Server.Utils
import IotMonitoring.Shared.DecimalTexts

/-!
# The command line

`parse_args` and the beginning of `main`, up to the point at which the threads
are started. An argument is a flag or a value by its position alone: a value is
never looked at, and the flag in the last place is missing one before anyone
asks what flag it is.
-/

namespace IotMonitoring

open ByteStrings Binary64
set_option autoImplicit false

def maxPathLen : Nat := 256

instance : NeZero maxPathLen := ⟨by decide⟩

structure ServerConfig where
  sensorPort : Int
  httpPort : Int
  authHost : Buffer maxIdLen
  authPort : Int
  logDir : Buffer maxPathLen
deriving DecidableEq

def ServerConfig.defaults : ServerConfig where
  sensorPort := 9090
  httpPort := 8080
  authHost := .copy (ascii "localhost")
  authPort := 5000
  logDir := .copy (ascii "logs")

/-! ## Numbers -/

/-- `(int) strtol(s, NULL, 10)`, where `long` has 64 bits. -/
def atoi (s : Bytes) : Int :=
  let (negative, s) := takeSign (s.dropWhile isSpace)
  let n : Int := digitsValue 10 (takeDigits decimalDigit s).1
  asInt (max (-2 ^ 63) (min (2 ^ 63 - 1) (if negative then -n else n)))

/-- The conversion `%d`. -/
def formatInt (n : Int) : Bytes := (if n < 0 then ascii "-" else []) ++ decimal n.natAbs

/-! ## Arguments -/

def helpFlag : Bytes := ascii "--help"

/-- What becomes of the arguments; `--help` ends the program inside `parse_args`. -/
inductive ParsedArgs where
  | config (c : ServerConfig)
  | help
  | missingValue (arg : Bytes)
  | unknown (arg : Bytes)

def parseArgs : List Bytes → ServerConfig → ParsedArgs
  | [], c => .config c
  | [arg], _ => if arg = helpFlag then .help else .missingValue arg
  | arg :: value :: args, c =>
    if arg = helpFlag then .help
    else if arg = ascii "--sensor-port" then parseArgs args { c with sensorPort := atoi value }
    else if arg = ascii "--http-port" then parseArgs args { c with httpPort := atoi value }
    else if arg = ascii "--auth-host" then parseArgs args { c with authHost := .copy value }
    else if arg = ascii "--auth-port" then parseArgs args { c with authPort := atoi value }
    else if arg = ascii "--log-dir" then parseArgs args { c with logDir := .copy value }
    else .unknown arg

def usageOptions : Bytes := ascii "Opciones:\n" ++
  ascii "  --sensor-port <puerto>   Puerto TCP para sensores   (default: " ++
    formatInt ServerConfig.defaults.sensorPort ++ ascii ")\n" ++
  ascii "  --http-port   <puerto>   Puerto HTTP para operadores (default: " ++
    formatInt ServerConfig.defaults.httpPort ++ ascii ")\n" ++
  ascii "  --auth-host   <host>     Hostname del auth service   (default: " ++
    ServerConfig.defaults.authHost.text ++ ascii ")\n" ++
  ascii "  --auth-port   <puerto>   Puerto del auth service     (default: " ++
    formatInt ServerConfig.defaults.authPort ++ ascii ")\n" ++
  ascii "  --log-dir     <ruta>     Directorio de logs          (default: " ++
    ServerConfig.defaults.logDir.text ++ ascii ")\n" ++
  ascii "  --help                   Muestra esta ayuda\n"

def printUsage (progname : Bytes) : Bytes :=
  ascii "Uso: " ++ progname ++ ascii " [opciones]\n\n" ++ usageOptions ++ ascii "\nEjemplo:\n  " ++
    progname ++ ascii " --auth-host auth.iot-monitor.example.com --log-dir /app/logs\n"

/-! ## The start of `main` -/

/-- The path that `logger_init` opens. -/
def logPath (c : ServerConfig) : Bytes :=
  snprintf maxPathLen (c.logDir.text ++ ascii "/" ++ ascii "server.log")

/-- The name of the file is cut behind a directory that is too long. -/
theorem logPath_eq_iff (c : ServerConfig) :
    logPath c = c.logDir.text ++ ascii "/" ++ ascii "server.log" ↔ c.logDir.text.length ≤ 244 := by
  have hlength : (c.logDir.text ++ ascii "/" ++ ascii "server.log").length =
      c.logDir.text.length + 11 := by
    rw [List.length_append, List.length_append]
    rfl
  have hroom : maxPathLen - 1 = 255 := rfl
  rw [logPath, snprintf, List.take_eq_self_iff, hlength, hroom]
  omega

/-- What is logged before the threads are started, the first of it by `logger_init`. -/
def startMessages (c : ServerConfig) : List Bytes :=
  [snprintf 256 (ascii "Logger inicializado. Archivo: " ++ logPath c),
    ascii "========================================",
    ascii "IoT Services Monitoring Server starting",
    ascii "========================================",
    snprintf 256 (ascii "Sensor port : " ++ formatInt c.sensorPort),
    snprintf 256 (ascii "HTTP port   : " ++ formatInt c.httpPort),
    snprintf 256 (ascii "Auth service: " ++ c.authHost.text ++ ascii ":" ++ formatInt c.authPort),
    snprintf 256 (ascii "Log dir     : " ++ c.logDir.text)]

inductive Startup where
  | exits (code : Nat) (stderr : Bytes)
  | serves (c : ServerConfig) (messages : List Bytes)

def missingText (arg : Bytes) : Bytes := ascii "Error: falta valor para " ++ arg ++ [newline]

def unknownText (arg : Bytes) : Bytes := ascii "Error: argumento desconocido: " ++ arg ++ [newline]

def logFailure (path : Bytes) : Bytes :=
  ascii "[FATAL] No se pudo abrir archivo de log: " ++ path ++ [newline] ++
    ascii "FATAL: No se pudo inicializar el logger.\n"

/-- `main` until its first thread; `opens` tells of a path whether `fopen` opens it. -/
def startMain (progname : Bytes) (args : List Bytes) (opens : Bytes → Bool) : Startup :=
  match parseArgs args .defaults with
  | .help => .exits 0 (printUsage progname)
  | .missingValue arg => .exits 1 (missingText arg ++ printUsage progname)
  | .unknown arg => .exits 1 (unknownText arg ++ printUsage progname)
  | .config c =>
    if opens (logPath c) then .serves c (startMessages c) else .exits 1 (logFailure (logPath c))

/-! ## Options -/

inductive Flag where
  | sensorPort | httpPort | authHost | authPort | logDir
deriving DecidableEq

def Flag.text : Flag → Bytes
  | sensorPort => ascii "--sensor-port"
  | httpPort => ascii "--http-port"
  | authHost => ascii "--auth-host"
  | authPort => ascii "--auth-port"
  | logDir => ascii "--log-dir"

/-- A flag and its value. -/
abbrev Setting := Flag × Bytes

/-- The arguments that give these options. -/
def given (options : List Setting) : List Bytes := options.flatMap fun o => [o.1.text, o.2]

/-- The value given last. -/
def lastValue (options : List Setting) (f : Flag) : Option Bytes :=
  (options.reverse.find? fun o => o.1 == f).map Prod.snd

/-- Each field has the value given last for its flag, or its default. -/
def configured (options : List Setting) : ServerConfig where
  sensorPort := ((lastValue options .sensorPort).map atoi).getD 9090
  httpPort := ((lastValue options .httpPort).map atoi).getD 8080
  authHost := .copy ((lastValue options .authHost).getD (ascii "localhost"))
  authPort := ((lastValue options .authPort).map atoi).getD 5000
  logDir := .copy ((lastValue options .logDir).getD (ascii "logs"))

/-- One turn of the loop. -/
def ServerConfig.set (c : ServerConfig) : Setting → ServerConfig
  | (.sensorPort, value) => { c with sensorPort := atoi value }
  | (.httpPort, value) => { c with httpPort := atoi value }
  | (.authHost, value) => { c with authHost := .copy value }
  | (.authPort, value) => { c with authPort := atoi value }
  | (.logDir, value) => { c with logDir := .copy value }

theorem lastValue_concat (options : List Setting) (o : Setting) (f : Flag) :
    lastValue (options ++ [o]) f = if o.1 = f then some o.2 else lastValue options f := by
  rw [lastValue, List.reverse_append, List.reverse_singleton, List.singleton_append,
    List.find?_cons]
  by_cases h : o.1 = f
  · rw [if_pos h, beq_iff_eq.mpr h]
    rfl
  · rw [if_neg h, beq_eq_false_iff_ne.mpr h]
    rfl

theorem configured_concat (options : List Setting) (o : Setting) :
    configured (options ++ [o]) = (configured options).set o := by
  obtain ⟨f, value⟩ := o
  unfold configured
  simp only [lastValue_concat]
  cases f <;> rfl

/-- The loop leaves in each field what was given last. -/
theorem foldl_set (options : List Setting) :
    options.foldl ServerConfig.set .defaults = configured options := by
  induction options using List.reverseRecOn with
  | nil => rfl
  | append_singleton options o ih => rw [List.foldl_concat, ih, configured_concat]

/-! ## Every command line -/

theorem parseArgs_flag (o : Setting) (args : List Bytes) (c : ServerConfig) :
    parseArgs (o.1.text :: o.2 :: args) c = parseArgs args (c.set o) := by
  obtain ⟨f, value⟩ := o
  cases f <;> rfl

theorem parseArgs_given (options : List Setting) (args : List Bytes) (c : ServerConfig) :
    parseArgs (given options ++ args) c = parseArgs args (options.foldl ServerConfig.set c) := by
  induction options generalizing c with
  | nil => rfl
  | cons o options ih =>
    change parseArgs (o.1.text :: o.2 :: (given options ++ args)) c = _
    rw [parseArgs_flag, ih]
    rfl

theorem parseArgs_help (args : List Bytes) (c : ServerConfig) :
    parseArgs (helpFlag :: args) c = .help := by
  cases args <;> rfl

theorem parseArgs_unknown {arg : Bytes} (hhelp : arg ≠ helpFlag) (hflag : ∀ f : Flag, f.text ≠ arg)
    (value : Bytes) (args : List Bytes) (c : ServerConfig) :
    parseArgs (arg :: value :: args) c = .unknown arg := by
  have hsensorPort : arg ≠ ascii "--sensor-port" := (hflag .sensorPort).symm
  have hhttpPort : arg ≠ ascii "--http-port" := (hflag .httpPort).symm
  have hauthHost : arg ≠ ascii "--auth-host" := (hflag .authHost).symm
  have hauthPort : arg ≠ ascii "--auth-port" := (hflag .authPort).symm
  have hlogDir : arg ≠ ascii "--log-dir" := (hflag .logDir).symm
  rw [parseArgs, if_neg hhelp, if_neg hsensorPort, if_neg hhttpPort, if_neg hauthHost,
    if_neg hauthPort, if_neg hlogDir]

/-- Where the loop stops: at the end, or at the first flag that is none. -/
theorem given_cases (args : List Bytes) : ∃ options : List Setting,
    args = given options ∨
    (∃ rest, args = given options ++ helpFlag :: rest) ∨
    (∃ arg, args = given options ++ [arg] ∧ arg ≠ helpFlag) ∨
    (∃ arg value rest, args = given options ++ arg :: value :: rest ∧ arg ≠ helpFlag ∧
      ∀ f : Flag, f.text ≠ arg) := by
  induction args using List.twoStepInduction with
  | nil => exact ⟨[], Or.inl rfl⟩
  | singleton arg =>
    by_cases hhelp : arg = helpFlag
    · exact ⟨[], Or.inr (Or.inl ⟨[], congrArg (fun a => [a]) hhelp⟩)⟩
    · exact ⟨[], Or.inr (Or.inr (Or.inl ⟨arg, rfl, hhelp⟩))⟩
  | cons_cons arg value args ih =>
    by_cases hhelp : arg = helpFlag
    · exact ⟨[], Or.inr (Or.inl ⟨value :: args, congrArg (fun a => a :: value :: args) hhelp⟩)⟩
    by_cases hflag : ∃ f : Flag, f.text = arg
    · obtain ⟨f, rfl⟩ := hflag
      obtain ⟨options, h⟩ := ih
      refine ⟨(f, value) :: options, ?_⟩
      rcases h with rfl | ⟨rest, rfl⟩ | ⟨arg, rfl, harg⟩ | ⟨arg, value', rest, rfl, harg⟩
      · exact Or.inl rfl
      · exact Or.inr (Or.inl ⟨rest, rfl⟩)
      · exact Or.inr (Or.inr (Or.inl ⟨arg, rfl, harg⟩))
      · exact Or.inr (Or.inr (Or.inr ⟨arg, value', rest, rfl, harg⟩))
    · refine ⟨[], Or.inr (Or.inr (Or.inr ⟨arg, value, args, rfl, hhelp, ?_⟩))⟩
      intro f hf
      exact hflag ⟨f, hf⟩

/-- How `main` starts with these arguments, read off the options in front of the place where the
loop stops. -/
inductive StartsAs (progname : Bytes) (args : List Bytes) (opens : Bytes → Bool) : Startup → Prop
  | serves {options : List Setting} (hargs : args = given options)
      (hopens : opens (logPath (configured options)) = true) :
      StartsAs progname args opens (.serves (configured options) (startMessages (configured options)))
  | noLog {options : List Setting} (hargs : args = given options)
      (hopens : opens (logPath (configured options)) = false) :
      StartsAs progname args opens (.exits 1 (logFailure (logPath (configured options))))
  | help {options : List Setting} {rest : List Bytes}
      (hargs : args = given options ++ helpFlag :: rest) :
      StartsAs progname args opens (.exits 0 (printUsage progname))
  | missing {options : List Setting} {arg : Bytes} (hargs : args = given options ++ [arg])
      (hhelp : arg ≠ helpFlag) :
      StartsAs progname args opens (.exits 1 (missingText arg ++ printUsage progname))
  | unknown {options : List Setting} {arg value : Bytes} {rest : List Bytes}
      (hargs : args = given options ++ arg :: value :: rest) (hhelp : arg ≠ helpFlag)
      (hflag : ∀ f : Flag, f.text ≠ arg) :
      StartsAs progname args opens (.exits 1 (unknownText arg ++ printUsage progname))

section
variable {progname : Bytes} {args : List Bytes} {opens : Bytes → Bool} {result : Startup}

theorem parseArgs_serves {options : List Setting} (hargs : args = given options) :
    parseArgs args .defaults = .config (configured options) := by
  have h := parseArgs_given options [] .defaults
  rw [List.append_nil, foldl_set] at h
  rw [hargs, h, parseArgs]

theorem startMain_of_startsAs (h : StartsAs progname args opens result) :
    startMain progname args opens = result := by
  cases h with
  | serves hargs hopens =>
    simp only [startMain, parseArgs_serves hargs, hopens, if_true]
  | noLog hargs hopens =>
    simp only [startMain, parseArgs_serves hargs, hopens, Bool.false_eq_true, if_false]
  | help hargs =>
    rw [startMain, hargs, parseArgs_given, parseArgs_help]
  | missing hargs hhelp =>
    rw [startMain, hargs, parseArgs_given, parseArgs, if_neg hhelp]
  | unknown hargs hhelp hflag =>
    rw [startMain, hargs, parseArgs_given, parseArgs_unknown hhelp hflag]

theorem exists_startsAs (progname : Bytes) (args : List Bytes) (opens : Bytes → Bool) :
    ∃ result, StartsAs progname args opens result := by
  obtain ⟨options, h⟩ := given_cases args
  rcases h with hargs | ⟨rest, hargs⟩ | ⟨arg, hargs, hhelp⟩ | ⟨arg, value, rest, hargs, hhelp, hflag⟩
  · cases hopens : opens (logPath (configured options)) with
    | true => exact ⟨_, .serves hargs hopens⟩
    | false => exact ⟨_, .noLog hargs hopens⟩
  · exact ⟨_, .help hargs⟩
  · exact ⟨_, .missing hargs hhelp⟩
  · exact ⟨_, .unknown hargs hhelp hflag⟩

end

/-- For every command line: the server starts, or `main` exits with this code and this text, exactly
as the options in front of the place where the loop stops tell. -/
theorem startMain_iff (progname : Bytes) (args : List Bytes) (opens : Bytes → Bool)
    (result : Startup) :
    startMain progname args opens = result ↔ StartsAs progname args opens result := by
  constructor
  · rintro rfl
    obtain ⟨result, h⟩ := exists_startsAs progname args opens
    rw [startMain_of_startsAs h]
    exact h
  · exact startMain_of_startsAs

/-! ## Every configuration -/

/-- What a variable of type `int` can hold. -/
def IsInt (n : Int) : Prop := -2 ^ 31 ≤ n ∧ n < 2 ^ 31

instance (n : Int) : Decidable (IsInt n) := inferInstanceAs (Decidable (_ ∧ _))

theorem atoi_isInt (s : Bytes) : IsInt (atoi s) := by
  unfold atoi asInt
  constructor
  · exact Int.le_bmod (by decide)
  · exact Int.bmod_lt (by decide)

theorem takeSign_decimal (n : Nat) :
    takeSign ((decimal n).dropWhile isSpace) = (false, decimal n) := by
  cases hdigits : decimal n with
  | nil => rfl
  | cons c cs =>
    have hdigit : isDigit c = true := decimal_isDigit (hdigits ▸ List.mem_cons_self)
    obtain ⟨hspace, hplus, hminus, -⟩ := isDigit_spec hdigit
    exact takeSign_unsigned hspace hplus hminus cs

theorem takeDigits_decimal (n : Nat) :
    digitsValue 10 (takeDigits decimalDigit (decimal n)).1 = n := by
  have h := @takeDigits_map (decimalDigits n) (fun d hd => decimalDigits_lt hd) [] fun c hc => by
    cases hc
  rw [List.append_nil] at h
  rw [decimal_eq, h, digitsValue_decimalDigits]

/-- A number of this size is read as it was printed. -/
theorem atoi_formatInt {n : Int} (h : IsInt n) : atoi (formatInt n) = n := by
  have hstay : ∀ m : Int, m = n →
      asInt (max (-2 ^ 63) (min (2 ^ 63 - 1) m)) = n := by
    rintro m rfl
    obtain ⟨hlow, hhigh⟩ := h
    rw [min_eq_right (by omega), max_eq_right (by omega)]
    exact Int.bmod_eq_of_le (by omega) (by omega)
  unfold atoi formatInt
  by_cases hn : n < 0
  · have hsign : takeSign ((ascii "-" ++ decimal n.natAbs).dropWhile isSpace) =
        (true, decimal n.natAbs) := rfl
    rw [if_pos hn, hsign]
    simp only [takeDigits_decimal, if_true]
    exact hstay _ (by omega)
  · rw [if_neg hn, List.nil_append, takeSign_decimal]
    simp only [takeDigits_decimal, Bool.false_eq_true, if_false]
    exact hstay _ (by omega)

/-- The options that set every field. -/
def settings (c : ServerConfig) : List Setting :=
  [(.sensorPort, formatInt c.sensorPort), (.httpPort, formatInt c.httpPort),
    (.authHost, c.authHost.text), (.authPort, formatInt c.authPort), (.logDir, c.logDir.text)]

structure ServerConfig.InRange (c : ServerConfig) : Prop where
  sensorPort : IsInt c.sensorPort
  httpPort : IsInt c.httpPort
  authPort : IsInt c.authPort

theorem configured_settings {c : ServerConfig} (h : c.InRange) : configured (settings c) = c := by
  have hsensor := atoi_formatInt h.sensorPort
  have hhttp := atoi_formatInt h.httpPort
  have hauth := atoi_formatInt h.authPort
  rw [← foldl_set]
  simp only [settings, List.foldl_cons, List.foldl_nil, ServerConfig.set, hsensor, hhttp, hauth,
    Buffer.copy_buffer]

theorem configured_inRange (options : List Setting) : (configured options).InRange := by
  have hport : ∀ (value : Option Bytes) (port : Int), IsInt port →
      IsInt ((value.map atoi).getD port) := by
    intro value port hport
    cases value with
    | none => exact hport
    | some s => exact atoi_isInt s
  exact ⟨hport _ _ (by decide), hport _ _ (by decide), hport _ _ (by decide)⟩

/-- A configuration can be reached from the command line exactly if its ports fit their variables
and its log can be opened. -/
theorem serves_iff (progname : Bytes) (opens : Bytes → Bool) (c : ServerConfig)
    (messages : List Bytes) :
    (∃ args, startMain progname args opens = .serves c messages) ↔
      c.InRange ∧ opens (logPath c) = true ∧ messages = startMessages c := by
  constructor
  · rintro ⟨args, hstart⟩
    obtain ⟨result, h⟩ := exists_startsAs progname args opens
    rw [startMain_of_startsAs h] at hstart
    subst hstart
    cases h with
    | serves _ hopens => exact ⟨configured_inRange _, hopens, rfl⟩
  · rintro ⟨hrange, hopens, rfl⟩
    have hself := configured_settings hrange
    have h : StartsAs progname (given (settings c)) opens
        (.serves (configured (settings c)) (startMessages (configured (settings c)))) := by
      apply StartsAs.serves rfl
      rw [hself]
      exact hopens
    rw [hself] at h
    exact ⟨_, startMain_of_startsAs h⟩

end IotMonitoring
