/-!
# Names of emoji, t to v

The names of emoji that start with a letter from t to v, each with the characters it stands for.
-/

namespace Phrasebook.Emoji

def namesTtoV1 : List (String × List Nat) := [
  ("t-rex", [0x1f996]), ("t-shirt", [0x1f455]), ("table_tennis_paddle_and_ball", [0x1f3d3]),
  ("taco", [0x1f32e]), ("tada", [0x1f389]), ("taiwan", [0x1f1f9, 0x1f1fc]),
  ("tajikistan", [0x1f1f9, 0x1f1ef]), ("takeout_box", [0x1f961]), ("tanabata_tree", [0x1f38b]),
  ("tangerine", [0x1f34a]), ("tanzania", [0x1f1f9, 0x1f1ff]), ("taurus", [0x2649]), ("taxi", [0x1f695]),
  ("tea", [0x1f375]), ("teacup_without_handle", [0x1f375]), ("tear-off_calendar", [0x1f4c6]),
  ("teddy_bear", [0x1f9f8]), ("telephone", [0x260e]), ("telephone_receiver", [0x1f4de]),
  ("telescope", [0x1f52d]), ("television", [0x1f4fa]), ("ten", [0x1f51f]), ("ten-thirty", [0x1f565]),
  ("ten_o’clock", [0x1f559]), ("tennis", [0x1f3be]), ("tent", [0x26fa]), ("test_tube", [0x1f9ea]),
  ("thailand", [0x1f1f9, 0x1f1ed]), ("thermometer", [0x1f321]), ("thinking_face", [0x1f914]),
  ("thought_balloon", [0x1f4ad]), ("thread", [0x1f9f5]), ("three", [0x33, 0xfe0f, 0x20e3]),
  ("three-thirty", [0x1f55e]), ("three_button_mouse", [0x1f5b1]), ("three_o’clock", [0x1f552]),
  ("thumbs_down", [0x1f44e]), ("thumbs_down_dark_skin_tone", [0x1f44e, 0x1f3ff]),
  ("thumbs_down_light_skin_tone", [0x1f44e, 0x1f3fb]),
  ("thumbs_down_medium-dark_skin_tone", [0x1f44e, 0x1f3fe]),
  ("thumbs_down_medium-light_skin_tone", [0x1f44e, 0x1f3fc]),
  ("thumbs_down_medium_skin_tone", [0x1f44e, 0x1f3fd]), ("thumbs_up", [0x1f44d]),
  ("thumbs_up_dark_skin_tone", [0x1f44d, 0x1f3ff]), ("thumbs_up_light_skin_tone", [0x1f44d, 0x1f3fb]),
  ("thumbs_up_medium-dark_skin_tone", [0x1f44d, 0x1f3fe]),
  ("thumbs_up_medium-light_skin_tone", [0x1f44d, 0x1f3fc]),
  ("thumbs_up_medium_skin_tone", [0x1f44d, 0x1f3fd]), ("thumbsdown", [0x1f44e]), ("thumbsup", [0x1f44d]),
  ("thunder_cloud_and_rain", [0x26c8]), ("ticket", [0x1f3ab]), ("tiger", [0x1f42f]), ("tiger2", [0x1f405]),
  ("tiger_face", [0x1f42f]), ("timer_clock", [0x23f2]), ("timor-leste", [0x1f1f9, 0x1f1f1]),
  ("tired_face", [0x1f62b]), ("tm", [0x2122]), ("togo", [0x1f1f9, 0x1f1ec]), ("toilet", [0x1f6bd]),
  ("tokelau", [0x1f1f9, 0x1f1f0]), ("tokyo_tower", [0x1f5fc]), ("tomato", [0x1f345]),
  ("tonga", [0x1f1f9, 0x1f1f4]), ("tongue", [0x1f445]), ("toolbox", [0x1f9f0]), ("tooth", [0x1f9b7]),
  ("top", [0x1f51d]), ("top_arrow", [0x1f51d]), ("top_hat", [0x1f3a9]), ("tophat", [0x1f3a9]),
  ("tornado", [0x1f32a]), ("trackball", [0x1f5b2]), ("tractor", [0x1f69c]), ("trade_mark", [0x2122]),
  ("traffic_light", [0x1f6a5]), ("train", [0x1f68b]), ("train2", [0x1f686]), ("tram", [0x1f68a]),
  ("tram_car", [0x1f68b]), ("triangular_flag", [0x1f6a9]), ("triangular_flag_on_post", [0x1f6a9]),
  ("triangular_ruler", [0x1f4d0]), ("trident", [0x1f531]), ("trident_emblem", [0x1f531]),
  ("trinidad_&_tobago", [0x1f1f9, 0x1f1f9]), ("tristan_da_cunha", [0x1f1f9, 0x1f1e6]), ("triumph", [0x1f624]),
  ("trolleybus", [0x1f68e]), ("trophy", [0x1f3c6]), ("tropical_drink", [0x1f379]),
  ("tropical_fish", [0x1f420]), ("truck", [0x1f69a]), ("trumpet", [0x1f3ba]), ("tshirt", [0x1f455]),
  ("tulip", [0x1f337]), ("tumbler_glass", [0x1f943]), ("tunisia", [0x1f1f9, 0x1f1f3]), ("turkey", [0x1f983]),
  ("turkmenistan", [0x1f1f9, 0x1f1f2]), ("turks_&_caicos_islands", [0x1f1f9, 0x1f1e8]), ("turtle", [0x1f422]),
  ("tuvalu", [0x1f1f9, 0x1f1fb]), ("tv", [0x1f4fa]), ("twelve-thirty", [0x1f567]),
  ("twelve_o’clock", [0x1f55b]), ("twisted_rightwards_arrows", [0x1f500]), ("two", [0x32, 0xfe0f, 0x20e3]),
  ("two-hump_camel", [0x1f42b]), ("two-thirty", [0x1f55d]), ("two_hearts", [0x1f495]),
  ("two_men_holding_hands", [0x1f46c]), ("two_o’clock", [0x1f551]), ("two_women_holding_hands", [0x1f46d]),
  ("u.s._outlying_islands", [0x1f1fa, 0x1f1f2]), ("u.s._virgin_islands", [0x1f1fb, 0x1f1ee]),
  ("u5272", [0x1f239]), ("u5408", [0x1f234]), ("u55b6", [0x1f23a])]

def namesTtoV2 : List (String × List Nat) := [
  ("u6307", [0x1f22f]), ("u6708", [0x1f237]), ("u6709", [0x1f236]), ("u6e80", [0x1f235]),
  ("u7121", [0x1f21a]), ("u7533", [0x1f238]), ("u7981", [0x1f232]), ("u7a7a", [0x1f233]),
  ("uganda", [0x1f1fa, 0x1f1ec]), ("ukraine", [0x1f1fa, 0x1f1e6]), ("umbrella", [0x2602]),
  ("umbrella_on_ground", [0x26f1]), ("umbrella_with_rain_drops", [0x2614]), ("unamused", [0x1f612]),
  ("unamused_face", [0x1f612]), ("underage", [0x1f51e]), ("unicorn_face", [0x1f984]),
  ("united_arab_emirates", [0x1f1e6, 0x1f1ea]), ("united_kingdom", [0x1f1ec, 0x1f1e7]),
  ("united_nations", [0x1f1fa, 0x1f1f3]), ("united_states", [0x1f1fa, 0x1f1f8]), ("unlock", [0x1f513]),
  ("unlocked", [0x1f513]), ("up", [0x1f199]), ("up!_button", [0x1f199]), ("up-down_arrow", [0x2195]),
  ("up-left_arrow", [0x2196]), ("up-right_arrow", [0x2197]), ("up_arrow", [0x2b06]),
  ("upside-down_face", [0x1f643]), ("upside__down_face", [0x1f643]), ("upwards_button", [0x1f53c]),
  ("uruguay", [0x1f1fa, 0x1f1fe]), ("uzbekistan", [0x1f1fa, 0x1f1ff]), ("v", [0x270c]),
  ("vampire", [0x1f9db]), ("vampire_dark_skin_tone", [0x1f9db, 0x1f3ff]),
  ("vampire_light_skin_tone", [0x1f9db, 0x1f3fb]), ("vampire_medium-dark_skin_tone", [0x1f9db, 0x1f3fe]),
  ("vampire_medium-light_skin_tone", [0x1f9db, 0x1f3fc]), ("vampire_medium_skin_tone", [0x1f9db, 0x1f3fd]),
  ("vanuatu", [0x1f1fb, 0x1f1fa]), ("vatican_city", [0x1f1fb, 0x1f1e6]), ("venezuela", [0x1f1fb, 0x1f1ea]),
  ("vertical_traffic_light", [0x1f6a6]), ("vhs", [0x1f4fc]), ("vibration_mode", [0x1f4f3]),
  ("victory_hand", [0x270c]), ("victory_hand_dark_skin_tone", [0x270c, 0x1f3ff]),
  ("victory_hand_light_skin_tone", [0x270c, 0x1f3fb]),
  ("victory_hand_medium-dark_skin_tone", [0x270c, 0x1f3fe]),
  ("victory_hand_medium-light_skin_tone", [0x270c, 0x1f3fc]),
  ("victory_hand_medium_skin_tone", [0x270c, 0x1f3fd]), ("video_camera", [0x1f4f9]),
  ("video_game", [0x1f3ae]), ("videocassette", [0x1f4fc]), ("vietnam", [0x1f1fb, 0x1f1f3]),
  ("violin", [0x1f3bb]), ("virgo", [0x264d]), ("volcano", [0x1f30b]), ("volleyball", [0x1f3d0]),
  ("vs", [0x1f19a]), ("vs_button", [0x1f19a]), ("vulcan_salute", [0x1f596]),
  ("vulcan_salute_dark_skin_tone", [0x1f596, 0x1f3ff]), ("vulcan_salute_light_skin_tone", [0x1f596, 0x1f3fb]),
  ("vulcan_salute_medium-dark_skin_tone", [0x1f596, 0x1f3fe]),
  ("vulcan_salute_medium-light_skin_tone", [0x1f596, 0x1f3fc]),
  ("vulcan_salute_medium_skin_tone", [0x1f596, 0x1f3fd])]

def namesTtoV : List (String × List Nat) :=
  namesTtoV1 ++ namesTtoV2

end Phrasebook.Emoji
