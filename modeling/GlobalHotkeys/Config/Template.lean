namespace GlobalHotkeys

def defaultConfigText : String :=
  String.intercalate "\n"
    ["# dictkey configuration",
     "#",
     "# Location: ~/.config/dictkey/config.toml",
     "# Reload a running daemon with: pkill -HUP dictkey",
     "",
     "[hotkey]",
     "# Hotkey that starts recording; press it again to stop.",
     "# Format: modifiers and one key joined by '+', case-insensitive.",
     "# Modifiers: ctrl, alt, altgr, shift, super (meta/win), hyper.",
     "# Side-specific names like leftctrl or rightshift are accepted too.",
     "# Examples: \"ctrl+alt+r\", \"super+shift+d\", \"f13\", \"scrolllock\"",
     "start_recording = \"ctrl+alt+r\"",
     "",
     "# Hotkey backend:",
     "# - \"auto\": detect (desktop portal first, raw input devices on AppImage)",
     "# - \"dbus\": always use the XDG desktop portal GlobalShortcuts interface",
     "# - \"evdev\": always read /dev/input (requires the 'input' group)",
     "# provider = \"auto\"",
     "",
     "# Extra named actions. A running daemon logs each activation.",
     "# [hotkey.actions]",
     "# cancel = \"ctrl+alt+c\"",
     "# paste_last = \"ctrl+alt+v\"",
     ""]

end GlobalHotkeys
