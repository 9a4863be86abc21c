import KeySlots.Key.Table

namespace KeySlots.KeyTable

def consecutive (first : Nat) (suffixes : List String) : Entries String KeyCode :=
  suffixes.zipIdx.map fun (suffix, n) => ("KC_" ++ suffix, ((first + n : Nat) : KeyCode))

def letterKeys : List String :=
  ["A", "B", "C", "D", "E", "F", "G", "H", "I", "J", "K", "L", "M", "N", "O", "P", "Q", "R", "S",
    "T", "U", "V", "W", "X", "Y", "Z"]

def digitKeys : List String :=
  ["1", "2", "3", "4", "5", "6", "7", "8", "9", "0"]

def functionKeys : List String :=
  ["F1", "F2", "F3", "F4", "F5", "F6", "F7", "F8", "F9", "F10", "F11", "F12"]

def basicNames : Entries String KeyCode :=
  [("KC_NO", 0x00), ("KC_TRANSPARENT", 0x01)] ++
    consecutive 0x04 letterKeys ++
    consecutive 0x1E digitKeys ++
    consecutive 0x28 ["ENTER", "ESCAPE", "BACKSPACE", "TAB", "SPACE", "MINUS", "EQUAL",
      "LEFT_BRACKET", "RIGHT_BRACKET", "BACKSLASH"] ++
    consecutive 0x33 ["SEMICOLON", "QUOTE", "GRAVE", "COMMA", "DOT", "SLASH", "CAPS_LOCK"] ++
    consecutive 0x3A functionKeys ++
    consecutive 0x49 ["INSERT", "HOME", "PAGE_UP", "DELETE", "END", "PAGE_DOWN", "RIGHT", "LEFT",
      "DOWN", "UP"] ++
    consecutive 0xE0 ["LEFT_CTRL", "LEFT_SHIFT", "LEFT_ALT", "LEFT_GUI", "RIGHT_CTRL",
      "RIGHT_SHIFT", "RIGHT_ALT", "RIGHT_GUI"]

def basicAliases : Entries String String := [
  ("KC_NONE", "KC_NO"), ("KC_TRNS", "KC_TRANSPARENT"), ("KC_ENT", "KC_ENTER"),
  ("KC_ESC", "KC_ESCAPE"), ("KC_BSPC", "KC_BACKSPACE"), ("KC_SPC", "KC_SPACE"),
  ("KC_MINS", "KC_MINUS"), ("KC_EQL", "KC_EQUAL"), ("KC_LBRC", "KC_LEFT_BRACKET"),
  ("KC_RBRC", "KC_RIGHT_BRACKET"), ("KC_BSLS", "KC_BACKSLASH"), ("KC_SCLN", "KC_SEMICOLON"),
  ("KC_QUOT", "KC_QUOTE"), ("KC_GRV", "KC_GRAVE"), ("KC_COMM", "KC_COMMA"),
  ("KC_SLSH", "KC_SLASH"), ("KC_CAPS", "KC_CAPS_LOCK"), ("KC_INS", "KC_INSERT"),
  ("KC_PGUP", "KC_PAGE_UP"), ("KC_DEL", "KC_DELETE"), ("KC_PGDN", "KC_PAGE_DOWN"),
  ("KC_RGHT", "KC_RIGHT"), ("KC_LCTL", "KC_LEFT_CTRL"), ("KC_LSFT", "KC_LEFT_SHIFT"),
  ("KC_LALT", "KC_LEFT_ALT"), ("KC_LGUI", "KC_LEFT_GUI"), ("KC_RCTL", "KC_RIGHT_CTRL"),
  ("KC_RSFT", "KC_RIGHT_SHIFT"), ("KC_RALT", "KC_RIGHT_ALT"), ("KC_RGUI", "KC_RIGHT_GUI")]

def basic : KeyTable :=
  (build basicNames basicAliases).toOption.getD (ofNames basicNames)

end KeySlots.KeyTable
