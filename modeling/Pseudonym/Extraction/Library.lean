import Pseudonym.Name.Reserved

/-!
# Looking into the standard library

A class may derive from one outside the program. Whether its members override something there can only
be seen at run time: a few modules are imported, and an object in them is asked for its attributes.
What such a look gives belongs to the interpreter and not to the program, so it is a parameter
(`Introspection`); only the choice of the modules and the search for the object are told here.

`listed` is one such look. It knows the classes that programs commonly derive from, as the interpreter
of version 3.11 has them, and nothing else. Names with two underscores in front are left out there:
they never count as overrides.
-/

namespace Pseudonym.Library

/-- What a look at run time gives: the attributes of the object that some names lead to in a module. It
gives nothing where the module cannot be imported or has no such object. -/
abbrev Introspection := (module : String) → (names : List String) → Option (String → Bool)

/-- The modules that are looked into. -/
def introspectable : List String :=
  ["builtins", "abc", "typing", "collections", "collections.abc", "contextlib", "enum", "numbers",
   "functools", "io", "json", "logging", "threading", "unittest", "argparse", "string", "pathlib",
   "queue"]

/-- Looks for an object by the parts of its qualified name: `count` of them name the module. Only the
longest module that may be looked into is tried. -/
def lookFrom (look : Introspection) (parts : List String) : (count : Nat) → Option (String → Bool)
  | 0 => none
  | count + 1 =>
    let module := ".".intercalate (parts.take (count + 1))
    if introspectable.contains module then look module (parts.drop (count + 1))
    else lookFrom look parts count

/-- Whether an object outside the program may have a member of a name. One that cannot be seen may have
any. -/
def mayHave (look : Introspection) (qualname name : String) : Bool :=
  let parts := qualname.splitOn "."
  match lookFrom look parts (parts.length - 1) with
  | some has => has name
  | none => true

/-- Library classes with the names of their members. -/
def classes : List (String × List String) :=
  [("abc.ABC", Name.listed
      "_abc_caches_clear _abc_impl _abc_registry_clear _dump_registry mro register"),
   ("argparse.Action", Name.listed "_get_args _get_kwargs format_usage mro"),
   ("builtins.Exception", Name.listed "add_note args mro with_traceback"),
   ("builtins.dict", Name.listed
      "clear copy fromkeys get items keys mro pop popitem setdefault update values"),
   ("builtins.int", Name.listed
      "as_integer_ratio bit_count bit_length conjugate denominator from_bytes imag mro
      numerator real to_bytes"),
   ("builtins.list", Name.listed
      "append clear copy count extend index insert mro pop remove reverse sort"),
   ("builtins.str", Name.listed
      "capitalize casefold center count encode endswith expandtabs find format format_map
      index isalnum isalpha isascii isdecimal isdigit isidentifier islower isnumeric
      isprintable isspace istitle isupper join ljust lower lstrip maketrans mro partition
      removeprefix removesuffix replace rfind rindex rjust rpartition rsplit rstrip split
      splitlines startswith strip swapcase title translate upper zfill"),
   ("builtins.type", Name.listed "mro"),
   ("collections.OrderedDict", Name.listed
      "clear copy fromkeys get items keys move_to_end mro pop popitem setdefault update
      values"),
   ("collections.UserDict", Name.listed
      "_MutableMapping__marker _abc_caches_clear _abc_impl _abc_registry_clear
      _dump_registry clear copy fromkeys get items keys mro pop popitem register
      setdefault update values"),
   ("collections.abc.Mapping", Name.listed
      "_abc_caches_clear _abc_impl _abc_registry_clear _dump_registry get items keys mro
      register values"),
   ("contextlib.ContextDecorator", Name.listed "_recreate_cm mro"),
   ("enum.Enum", Name.listed
      "_check_for_existing_members_ _convert_ _create_ _find_data_repr_ _find_data_type_
      _find_new_ _generate_next_value_ _get_mixins_ _missing_ mro"),
   ("enum.IntFlag", Name.listed
      "_check_for_existing_members_ _convert_ _create_ _find_data_repr_ _find_data_type_
      _find_new_ _generate_next_value_ _get_mixins_ _missing_ as_integer_ratio bit_count bit_length conjugate denominator
      from_bytes imag mro numerator real to_bytes"),
   ("functools.partial", Name.listed "args func keywords mro"),
   ("io.StringIO", Name.listed
      "_checkClosed _checkReadable _checkSeekable _checkWritable close closed detach
      encoding errors fileno flush getvalue isatty line_buffering mro newlines read
      readable readline readlines seek seekable tell truncate writable write writelines"),
   ("json.JSONEncoder", Name.listed "default encode item_separator iterencode key_separator mro"),
   ("json.encoder.JSONEncoder", Name.listed
      "default encode item_separator iterencode key_separator mro"),
   ("logging.Handler", Name.listed
      "_at_fork_reinit acquire addFilter close createLock emit filter flush format get_name
      handle handleError mro name release removeFilter setFormatter setLevel set_name"),
   ("numbers.Number", Name.listed
      "_abc_caches_clear _abc_impl _abc_registry_clear _dump_registry mro register"),
   ("pathlib.Path", Name.listed
      "_cached_cparts _cparts _drv _format_parsed_parts _from_parsed_parts _from_parts
      _hash _make_child _make_child_relpath _parse_args _parts _pparts _root _scandir _str
      absolute anchor as_posix as_uri chmod cwd drive exists expanduser glob group
      hardlink_to home is_absolute is_block_device is_char_device is_dir is_fifo is_file
      is_mount is_relative_to is_reserved is_socket is_symlink iterdir joinpath lchmod
      link_to lstat match mkdir mro name open owner parent parents parts read_bytes
      read_text readlink relative_to rename replace resolve rglob rmdir root samefile stat
      stem suffix suffixes symlink_to touch unlink with_name with_stem with_suffix
      write_bytes write_text"),
   ("queue.Queue", Name.listed
      "_get _init _put _qsize empty full get get_nowait join mro put put_nowait qsize
      task_done"),
   ("string.Formatter", Name.listed
      "_vformat check_unused_args convert_field format format_field get_field get_value mro
      parse vformat"),
   ("threading.Thread", Name.listed
      "_bootstrap _bootstrap_inner _delete _initialized _reset_internal_locks _set_ident
      _set_native_id _set_tstate_lock _stop _wait_for_tstate_lock daemon getName ident
      isDaemon is_alive join mro name native_id run setDaemon setName start"),
   ("typing.Dict", Name.listed
      "_inst _name _nparams clear copy copy_with fromkeys get items keys mro pop popitem
      setdefault update values"),
   ("typing.Generic", Name.listed "_is_protocol mro"),
   ("typing.NamedTuple", Name.listed ""),
   ("typing.Protocol", Name.listed
      "_abc_caches_clear _abc_impl _abc_registry_clear _dump_registry _is_protocol
      _is_runtime_protocol mro register"),
   ("typing.TypedDict", Name.listed ""),
   ("unittest.TestCase", Name.listed
      "_addExpectedFailure _addUnexpectedSuccess _baseAssertEqual _callCleanup _callSetUp
      _callTearDown _callTestMethod _deprecate _diffThreshold _formatMessage
      _getAssertEqualityFunc _truncateMessage addClassCleanup addCleanup
      addTypeEqualityFunc assertAlmostEqual assertAlmostEquals assertCountEqual
      assertDictContainsSubset assertDictEqual assertEqual assertEquals assertFalse
      assertGreater assertGreaterEqual assertIn assertIs assertIsInstance assertIsNone
      assertIsNot assertIsNotNone assertLess assertLessEqual assertListEqual assertLogs
      assertMultiLineEqual assertNoLogs assertNotAlmostEqual assertNotAlmostEquals
      assertNotEqual assertNotEquals assertNotIn assertNotIsInstance assertNotRegex
      assertNotRegexpMatches assertRaises assertRaisesRegex assertRaisesRegexp assertRegex
      assertRegexpMatches assertSequenceEqual assertSetEqual assertTrue assertTupleEqual
      assertWarns assertWarnsRegex assert_ countTestCases debug defaultTestResult
      doClassCleanups doCleanups enterClassContext enterContext fail failIf
      failIfAlmostEqual failIfEqual failUnless failUnlessAlmostEqual failUnlessEqual
      failUnlessRaises failureException id longMessage maxDiff mro run setUp setUpClass
      shortDescription skipTest subTest tearDown tearDownClass")]

/-- The look at the classes that are listed. -/
def listed : Introspection := fun module names =>
  (classes.find? (·.1 = ".".intercalate (module :: names))).map (·.2.contains)

end Pseudonym.Library
