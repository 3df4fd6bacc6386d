/-!
# Names of emoji, n to p

The names of emoji that start with a letter from n to p, each with the characters it stands for.
-/

namespace Phrasebook.Emoji

def namesNtoP1 : List (String × List Nat) := [
  ("nail_care", [0x1f485]), ("nail_polish", [0x1f485]), ("nail_polish_dark_skin_tone", [0x1f485, 0x1f3ff]),
  ("nail_polish_light_skin_tone", [0x1f485, 0x1f3fb]),
  ("nail_polish_medium-dark_skin_tone", [0x1f485, 0x1f3fe]),
  ("nail_polish_medium-light_skin_tone", [0x1f485, 0x1f3fc]),
  ("nail_polish_medium_skin_tone", [0x1f485, 0x1f3fd]), ("name_badge", [0x1f4db]),
  ("namibia", [0x1f1f3, 0x1f1e6]), ("national_park", [0x1f3de]), ("nauru", [0x1f1f3, 0x1f1f7]),
  ("nauseated_face", [0x1f922]), ("nazar_amulet", [0x1f9ff]), ("necktie", [0x1f454]),
  ("negative_squared_cross_mark", [0x274e]), ("nepal", [0x1f1f3, 0x1f1f5]), ("nerd_face", [0x1f913]),
  ("netherlands", [0x1f1f3, 0x1f1f1]), ("neutral_face", [0x1f610]), ("new", [0x1f195]),
  ("new_button", [0x1f195]), ("new_caledonia", [0x1f1f3, 0x1f1e8]), ("new_moon", [0x1f311]),
  ("new_moon_face", [0x1f31a]), ("new_moon_with_face", [0x1f31a]), ("new_zealand", [0x1f1f3, 0x1f1ff]),
  ("newspaper", [0x1f4f0]), ("next_track_button", [0x23ed]), ("ng", [0x1f196]), ("ng_button", [0x1f196]),
  ("nicaragua", [0x1f1f3, 0x1f1ee]), ("niger", [0x1f1f3, 0x1f1ea]), ("nigeria", [0x1f1f3, 0x1f1ec]),
  ("night_with_stars", [0x1f303]), ("nine", [0x39, 0xfe0f, 0x20e3]), ("nine-thirty", [0x1f564]),
  ("nine_o’clock", [0x1f558]), ("niue", [0x1f1f3, 0x1f1fa]), ("no_bell", [0x1f515]),
  ("no_bicycles", [0x1f6b3]), ("no_entry", [0x26d4]), ("no_entry_sign", [0x1f6ab]), ("no_good", [0x1f645]),
  ("no_littering", [0x1f6af]), ("no_mobile_phones", [0x1f4f5]), ("no_mouth", [0x1f636]),
  ("no_one_under_eighteen", [0x1f51e]), ("no_pedestrians", [0x1f6b7]), ("no_smoking", [0x1f6ad]),
  ("non-potable_water", [0x1f6b1]), ("non__potable_water", [0x1f6b1]), ("norfolk_island", [0x1f1f3, 0x1f1eb]),
  ("north_korea", [0x1f1f0, 0x1f1f5]), ("northern_mariana_islands", [0x1f1f2, 0x1f1f5]),
  ("norway", [0x1f1f3, 0x1f1f4]), ("nose", [0x1f443]), ("nose_dark_skin_tone", [0x1f443, 0x1f3ff]),
  ("nose_light_skin_tone", [0x1f443, 0x1f3fb]), ("nose_medium-dark_skin_tone", [0x1f443, 0x1f3fe]),
  ("nose_medium-light_skin_tone", [0x1f443, 0x1f3fc]), ("nose_medium_skin_tone", [0x1f443, 0x1f3fd]),
  ("notebook", [0x1f4d3]), ("notebook_with_decorative_cover", [0x1f4d4]), ("notes", [0x1f3b6]),
  ("nut_and_bolt", [0x1f529]), ("o", [0x2b55]), ("o2", [0x1f17e]), ("o_button_(blood_type)", [0x1f17e]),
  ("ocean", [0x1f30a]), ("octopus", [0x1f419]), ("oden", [0x1f362]), ("office", [0x1f3e2]),
  ("office_building", [0x1f3e2]), ("ogre", [0x1f479]), ("oil_drum", [0x1f6e2]), ("ok", [0x1f197]),
  ("ok_button", [0x1f197]), ("ok_hand", [0x1f44c]), ("ok_hand_dark_skin_tone", [0x1f44c, 0x1f3ff]),
  ("ok_hand_light_skin_tone", [0x1f44c, 0x1f3fb]), ("ok_hand_medium-dark_skin_tone", [0x1f44c, 0x1f3fe]),
  ("ok_hand_medium-light_skin_tone", [0x1f44c, 0x1f3fc]), ("ok_hand_medium_skin_tone", [0x1f44c, 0x1f3fd]),
  ("ok_woman", [0x1f646]), ("old_key", [0x1f5dd]), ("old_man", [0x1f474]),
  ("old_man_dark_skin_tone", [0x1f474, 0x1f3ff]), ("old_man_light_skin_tone", [0x1f474, 0x1f3fb]),
  ("old_man_medium-dark_skin_tone", [0x1f474, 0x1f3fe]),
  ("old_man_medium-light_skin_tone", [0x1f474, 0x1f3fc]), ("old_man_medium_skin_tone", [0x1f474, 0x1f3fd]),
  ("old_woman", [0x1f475]), ("old_woman_dark_skin_tone", [0x1f475, 0x1f3ff]),
  ("old_woman_light_skin_tone", [0x1f475, 0x1f3fb]), ("old_woman_medium-dark_skin_tone", [0x1f475, 0x1f3fe]),
  ("old_woman_medium-light_skin_tone", [0x1f475, 0x1f3fc]),
  ("old_woman_medium_skin_tone", [0x1f475, 0x1f3fd]), ("older_adult", [0x1f9d3]),
  ("older_adult_dark_skin_tone", [0x1f9d3, 0x1f3ff]), ("older_adult_light_skin_tone", [0x1f9d3, 0x1f3fb]),
  ("older_adult_medium-dark_skin_tone", [0x1f9d3, 0x1f3fe]),
  ("older_adult_medium-light_skin_tone", [0x1f9d3, 0x1f3fc]),
  ("older_adult_medium_skin_tone", [0x1f9d3, 0x1f3fd]), ("older_man", [0x1f474]), ("older_woman", [0x1f475]),
  ("om", [0x1f549]), ("om_symbol", [0x1f549]), ("oman", [0x1f1f4, 0x1f1f2]), ("on", [0x1f51b]),
  ("on!_arrow", [0x1f51b]), ("oncoming_automobile", [0x1f698]), ("oncoming_bus", [0x1f68d]),
  ("oncoming_fist", [0x1f44a]), ("oncoming_fist_dark_skin_tone", [0x1f44a, 0x1f3ff]),
  ("oncoming_fist_light_skin_tone", [0x1f44a, 0x1f3fb]),
  ("oncoming_fist_medium-dark_skin_tone", [0x1f44a, 0x1f3fe]),
  ("oncoming_fist_medium-light_skin_tone", [0x1f44a, 0x1f3fc]),
  ("oncoming_fist_medium_skin_tone", [0x1f44a, 0x1f3fd]), ("oncoming_police_car", [0x1f694]),
  ("oncoming_taxi", [0x1f696])]

def namesNtoP2 : List (String × List Nat) := [
  ("one", [0x31, 0xfe0f, 0x20e3]), ("one-piece_swimsuit", [0x1fa71]), ("one-thirty", [0x1f55c]),
  ("one_o’clock", [0x1f550]), ("onion", [0x1f9c5]), ("open_book", [0x1f4d6]), ("open_file_folder", [0x1f4c2]),
  ("open_hands", [0x1f450]), ("open_hands_dark_skin_tone", [0x1f450, 0x1f3ff]),
  ("open_hands_light_skin_tone", [0x1f450, 0x1f3fb]),
  ("open_hands_medium-dark_skin_tone", [0x1f450, 0x1f3fe]),
  ("open_hands_medium-light_skin_tone", [0x1f450, 0x1f3fc]),
  ("open_hands_medium_skin_tone", [0x1f450, 0x1f3fd]), ("open_mailbox_with_lowered_flag", [0x1f4ed]),
  ("open_mailbox_with_raised_flag", [0x1f4ec]), ("open_mouth", [0x1f62e]), ("ophiuchus", [0x26ce]),
  ("optical_disk", [0x1f4bf]), ("orange_book", [0x1f4d9]), ("orange_circle", [0x1f7e0]),
  ("orange_heart", [0x1f9e1]), ("orange_square", [0x1f7e7]), ("orangutan", [0x1f9a7]),
  ("orthodox_cross", [0x2626]), ("otter", [0x1f9a6]), ("outbox_tray", [0x1f4e4]), ("owl", [0x1f989]),
  ("ox", [0x1f402]), ("oyster", [0x1f9aa]), ("p_button", [0x1f17f]), ("package", [0x1f4e6]),
  ("page_facing_up", [0x1f4c4]), ("page_with_curl", [0x1f4c3]), ("pager", [0x1f4df]),
  ("paintbrush", [0x1f58c]), ("pakistan", [0x1f1f5, 0x1f1f0]), ("palau", [0x1f1f5, 0x1f1fc]),
  ("palestinian_territories", [0x1f1f5, 0x1f1f8]), ("palm_tree", [0x1f334]), ("palms_up_together", [0x1f932]),
  ("palms_up_together_dark_skin_tone", [0x1f932, 0x1f3ff]),
  ("palms_up_together_light_skin_tone", [0x1f932, 0x1f3fb]),
  ("palms_up_together_medium-dark_skin_tone", [0x1f932, 0x1f3fe]),
  ("palms_up_together_medium-light_skin_tone", [0x1f932, 0x1f3fc]),
  ("palms_up_together_medium_skin_tone", [0x1f932, 0x1f3fd]), ("panama", [0x1f1f5, 0x1f1e6]),
  ("pancakes", [0x1f95e]), ("panda_face", [0x1f43c]), ("paperclip", [0x1f4ce]),
  ("papua_new_guinea", [0x1f1f5, 0x1f1ec]), ("paraguay", [0x1f1f5, 0x1f1fe]), ("parking", [0x1f17f]),
  ("parrot", [0x1f99c]), ("part_alternation_mark", [0x303d]), ("partly_sunny", [0x26c5]),
  ("party_popper", [0x1f389]), ("partying_face", [0x1f973]), ("passenger_ship", [0x1f6f3]),
  ("passport_control", [0x1f6c2]), ("pause_button", [0x23f8]), ("paw_prints", [0x1f43e]),
  ("peace_symbol", [0x262e]), ("peach", [0x1f351]), ("peacock", [0x1f99a]), ("peanuts", [0x1f95c]),
  ("pear", [0x1f350]), ("pen", [0x1f58a]), ("pencil", [0x1f4dd]), ("pencil2", [0x270f]),
  ("penguin", [0x1f427]), ("pensive", [0x1f614]), ("pensive_face", [0x1f614]),
  ("people_holding_hands", [0x1f9d1, 0x200d, 0x1f91d, 0x200d, 0x1f9d1]),
  ("people_with_bunny_ears", [0x1f46f]), ("people_wrestling", [0x1f93c]), ("performing_arts", [0x1f3ad]),
  ("persevere", [0x1f623]), ("persevering_face", [0x1f623]), ("person_biking", [0x1f6b4]),
  ("person_biking_dark_skin_tone", [0x1f6b4, 0x1f3ff]), ("person_biking_light_skin_tone", [0x1f6b4, 0x1f3fb]),
  ("person_biking_medium-dark_skin_tone", [0x1f6b4, 0x1f3fe]),
  ("person_biking_medium-light_skin_tone", [0x1f6b4, 0x1f3fc]),
  ("person_biking_medium_skin_tone", [0x1f6b4, 0x1f3fd]), ("person_bouncing_ball", [0x26f9]),
  ("person_bouncing_ball_dark_skin_tone", [0x26f9, 0x1f3ff]),
  ("person_bouncing_ball_light_skin_tone", [0x26f9, 0x1f3fb]),
  ("person_bouncing_ball_medium-dark_skin_tone", [0x26f9, 0x1f3fe]),
  ("person_bouncing_ball_medium-light_skin_tone", [0x26f9, 0x1f3fc]),
  ("person_bouncing_ball_medium_skin_tone", [0x26f9, 0x1f3fd]), ("person_bowing", [0x1f647]),
  ("person_bowing_dark_skin_tone", [0x1f647, 0x1f3ff]), ("person_bowing_light_skin_tone", [0x1f647, 0x1f3fb]),
  ("person_bowing_medium-dark_skin_tone", [0x1f647, 0x1f3fe]),
  ("person_bowing_medium-light_skin_tone", [0x1f647, 0x1f3fc]),
  ("person_bowing_medium_skin_tone", [0x1f647, 0x1f3fd]), ("person_cartwheeling", [0x1f938]),
  ("person_cartwheeling_dark_skin_tone", [0x1f938, 0x1f3ff]),
  ("person_cartwheeling_light_skin_tone", [0x1f938, 0x1f3fb]),
  ("person_cartwheeling_medium-dark_skin_tone", [0x1f938, 0x1f3fe]),
  ("person_cartwheeling_medium-light_skin_tone", [0x1f938, 0x1f3fc]),
  ("person_cartwheeling_medium_skin_tone", [0x1f938, 0x1f3fd]), ("person_climbing", [0x1f9d7]),
  ("person_climbing_dark_skin_tone", [0x1f9d7, 0x1f3ff]),
  ("person_climbing_light_skin_tone", [0x1f9d7, 0x1f3fb]),
  ("person_climbing_medium-dark_skin_tone", [0x1f9d7, 0x1f3fe]),
  ("person_climbing_medium-light_skin_tone", [0x1f9d7, 0x1f3fc]),
  ("person_climbing_medium_skin_tone", [0x1f9d7, 0x1f3fd]), ("person_facepalming", [0x1f926]),
  ("person_facepalming_dark_skin_tone", [0x1f926, 0x1f3ff]),
  ("person_facepalming_light_skin_tone", [0x1f926, 0x1f3fb]),
  ("person_facepalming_medium-dark_skin_tone", [0x1f926, 0x1f3fe]),
  ("person_facepalming_medium-light_skin_tone", [0x1f926, 0x1f3fc]),
  ("person_facepalming_medium_skin_tone", [0x1f926, 0x1f3fd]), ("person_fencing", [0x1f93a]),
  ("person_frowning", [0x1f64d]), ("person_frowning_dark_skin_tone", [0x1f64d, 0x1f3ff]),
  ("person_frowning_light_skin_tone", [0x1f64d, 0x1f3fb]),
  ("person_frowning_medium-dark_skin_tone", [0x1f64d, 0x1f3fe]),
  ("person_frowning_medium-light_skin_tone", [0x1f64d, 0x1f3fc])]

def namesNtoP3 : List (String × List Nat) := [
  ("person_frowning_medium_skin_tone", [0x1f64d, 0x1f3fd]), ("person_gesturing_no", [0x1f645]),
  ("person_gesturing_no_dark_skin_tone", [0x1f645, 0x1f3ff]),
  ("person_gesturing_no_light_skin_tone", [0x1f645, 0x1f3fb]),
  ("person_gesturing_no_medium-dark_skin_tone", [0x1f645, 0x1f3fe]),
  ("person_gesturing_no_medium-light_skin_tone", [0x1f645, 0x1f3fc]),
  ("person_gesturing_no_medium_skin_tone", [0x1f645, 0x1f3fd]), ("person_gesturing_ok", [0x1f646]),
  ("person_gesturing_ok_dark_skin_tone", [0x1f646, 0x1f3ff]),
  ("person_gesturing_ok_light_skin_tone", [0x1f646, 0x1f3fb]),
  ("person_gesturing_ok_medium-dark_skin_tone", [0x1f646, 0x1f3fe]),
  ("person_gesturing_ok_medium-light_skin_tone", [0x1f646, 0x1f3fc]),
  ("person_gesturing_ok_medium_skin_tone", [0x1f646, 0x1f3fd]), ("person_getting_haircut", [0x1f487]),
  ("person_getting_haircut_dark_skin_tone", [0x1f487, 0x1f3ff]),
  ("person_getting_haircut_light_skin_tone", [0x1f487, 0x1f3fb]),
  ("person_getting_haircut_medium-dark_skin_tone", [0x1f487, 0x1f3fe]),
  ("person_getting_haircut_medium-light_skin_tone", [0x1f487, 0x1f3fc]),
  ("person_getting_haircut_medium_skin_tone", [0x1f487, 0x1f3fd]), ("person_getting_massage", [0x1f486]),
  ("person_getting_massage_dark_skin_tone", [0x1f486, 0x1f3ff]),
  ("person_getting_massage_light_skin_tone", [0x1f486, 0x1f3fb]),
  ("person_getting_massage_medium-dark_skin_tone", [0x1f486, 0x1f3fe]),
  ("person_getting_massage_medium-light_skin_tone", [0x1f486, 0x1f3fc]),
  ("person_getting_massage_medium_skin_tone", [0x1f486, 0x1f3fd]), ("person_golfing", [0x1f3cc]),
  ("person_golfing_dark_skin_tone", [0x1f3cc, 0x1f3ff]),
  ("person_golfing_light_skin_tone", [0x1f3cc, 0x1f3fb]),
  ("person_golfing_medium-dark_skin_tone", [0x1f3cc, 0x1f3fe]),
  ("person_golfing_medium-light_skin_tone", [0x1f3cc, 0x1f3fc]),
  ("person_golfing_medium_skin_tone", [0x1f3cc, 0x1f3fd]), ("person_in_bed", [0x1f6cc]),
  ("person_in_bed_dark_skin_tone", [0x1f6cc, 0x1f3ff]), ("person_in_bed_light_skin_tone", [0x1f6cc, 0x1f3fb]),
  ("person_in_bed_medium-dark_skin_tone", [0x1f6cc, 0x1f3fe]),
  ("person_in_bed_medium-light_skin_tone", [0x1f6cc, 0x1f3fc]),
  ("person_in_bed_medium_skin_tone", [0x1f6cc, 0x1f3fd]), ("person_in_lotus_position", [0x1f9d8]),
  ("person_in_lotus_position_dark_skin_tone", [0x1f9d8, 0x1f3ff]),
  ("person_in_lotus_position_light_skin_tone", [0x1f9d8, 0x1f3fb]),
  ("person_in_lotus_position_medium-dark_skin_tone", [0x1f9d8, 0x1f3fe]),
  ("person_in_lotus_position_medium-light_skin_tone", [0x1f9d8, 0x1f3fc]),
  ("person_in_lotus_position_medium_skin_tone", [0x1f9d8, 0x1f3fd]), ("person_in_steamy_room", [0x1f9d6]),
  ("person_in_steamy_room_dark_skin_tone", [0x1f9d6, 0x1f3ff]),
  ("person_in_steamy_room_light_skin_tone", [0x1f9d6, 0x1f3fb]),
  ("person_in_steamy_room_medium-dark_skin_tone", [0x1f9d6, 0x1f3fe]),
  ("person_in_steamy_room_medium-light_skin_tone", [0x1f9d6, 0x1f3fc]),
  ("person_in_steamy_room_medium_skin_tone", [0x1f9d6, 0x1f3fd]), ("person_juggling", [0x1f939]),
  ("person_juggling_dark_skin_tone", [0x1f939, 0x1f3ff]),
  ("person_juggling_light_skin_tone", [0x1f939, 0x1f3fb]),
  ("person_juggling_medium-dark_skin_tone", [0x1f939, 0x1f3fe]),
  ("person_juggling_medium-light_skin_tone", [0x1f939, 0x1f3fc]),
  ("person_juggling_medium_skin_tone", [0x1f939, 0x1f3fd]), ("person_kneeling", [0x1f9ce]),
  ("person_lifting_weights", [0x1f3cb]), ("person_lifting_weights_dark_skin_tone", [0x1f3cb, 0x1f3ff]),
  ("person_lifting_weights_light_skin_tone", [0x1f3cb, 0x1f3fb]),
  ("person_lifting_weights_medium-dark_skin_tone", [0x1f3cb, 0x1f3fe]),
  ("person_lifting_weights_medium-light_skin_tone", [0x1f3cb, 0x1f3fc]),
  ("person_lifting_weights_medium_skin_tone", [0x1f3cb, 0x1f3fd]), ("person_mountain_biking", [0x1f6b5]),
  ("person_mountain_biking_dark_skin_tone", [0x1f6b5, 0x1f3ff]),
  ("person_mountain_biking_light_skin_tone", [0x1f6b5, 0x1f3fb]),
  ("person_mountain_biking_medium-dark_skin_tone", [0x1f6b5, 0x1f3fe]),
  ("person_mountain_biking_medium-light_skin_tone", [0x1f6b5, 0x1f3fc]),
  ("person_mountain_biking_medium_skin_tone", [0x1f6b5, 0x1f3fd]), ("person_playing_handball", [0x1f93e]),
  ("person_playing_handball_dark_skin_tone", [0x1f93e, 0x1f3ff]),
  ("person_playing_handball_light_skin_tone", [0x1f93e, 0x1f3fb]),
  ("person_playing_handball_medium-dark_skin_tone", [0x1f93e, 0x1f3fe]),
  ("person_playing_handball_medium-light_skin_tone", [0x1f93e, 0x1f3fc]),
  ("person_playing_handball_medium_skin_tone", [0x1f93e, 0x1f3fd]), ("person_playing_water_polo", [0x1f93d]),
  ("person_playing_water_polo_dark_skin_tone", [0x1f93d, 0x1f3ff]),
  ("person_playing_water_polo_light_skin_tone", [0x1f93d, 0x1f3fb]),
  ("person_playing_water_polo_medium-dark_skin_tone", [0x1f93d, 0x1f3fe]),
  ("person_playing_water_polo_medium-light_skin_tone", [0x1f93d, 0x1f3fc]),
  ("person_playing_water_polo_medium_skin_tone", [0x1f93d, 0x1f3fd]), ("person_pouting", [0x1f64e]),
  ("person_pouting_dark_skin_tone", [0x1f64e, 0x1f3ff]),
  ("person_pouting_light_skin_tone", [0x1f64e, 0x1f3fb]),
  ("person_pouting_medium-dark_skin_tone", [0x1f64e, 0x1f3fe]),
  ("person_pouting_medium-light_skin_tone", [0x1f64e, 0x1f3fc]),
  ("person_pouting_medium_skin_tone", [0x1f64e, 0x1f3fd]), ("person_raising_hand", [0x1f64b]),
  ("person_raising_hand_dark_skin_tone", [0x1f64b, 0x1f3ff]),
  ("person_raising_hand_light_skin_tone", [0x1f64b, 0x1f3fb]),
  ("person_raising_hand_medium-dark_skin_tone", [0x1f64b, 0x1f3fe]),
  ("person_raising_hand_medium-light_skin_tone", [0x1f64b, 0x1f3fc]),
  ("person_raising_hand_medium_skin_tone", [0x1f64b, 0x1f3fd]), ("person_rowing_boat", [0x1f6a3]),
  ("person_rowing_boat_dark_skin_tone", [0x1f6a3, 0x1f3ff]),
  ("person_rowing_boat_light_skin_tone", [0x1f6a3, 0x1f3fb]),
  ("person_rowing_boat_medium-dark_skin_tone", [0x1f6a3, 0x1f3fe]),
  ("person_rowing_boat_medium-light_skin_tone", [0x1f6a3, 0x1f3fc]),
  ("person_rowing_boat_medium_skin_tone", [0x1f6a3, 0x1f3fd]), ("person_running", [0x1f3c3]),
  ("person_running_dark_skin_tone", [0x1f3c3, 0x1f3ff]),
  ("person_running_light_skin_tone", [0x1f3c3, 0x1f3fb]),
  ("person_running_medium-dark_skin_tone", [0x1f3c3, 0x1f3fe]),
  ("person_running_medium-light_skin_tone", [0x1f3c3, 0x1f3fc]),
  ("person_running_medium_skin_tone", [0x1f3c3, 0x1f3fd]), ("person_shrugging", [0x1f937]),
  ("person_shrugging_dark_skin_tone", [0x1f937, 0x1f3ff]),
  ("person_shrugging_light_skin_tone", [0x1f937, 0x1f3fb]),
  ("person_shrugging_medium-dark_skin_tone", [0x1f937, 0x1f3fe]),
  ("person_shrugging_medium-light_skin_tone", [0x1f937, 0x1f3fc]),
  ("person_shrugging_medium_skin_tone", [0x1f937, 0x1f3fd]), ("person_standing", [0x1f9cd]),
  ("person_surfing", [0x1f3c4]), ("person_surfing_dark_skin_tone", [0x1f3c4, 0x1f3ff]),
  ("person_surfing_light_skin_tone", [0x1f3c4, 0x1f3fb]),
  ("person_surfing_medium-dark_skin_tone", [0x1f3c4, 0x1f3fe]),
  ("person_surfing_medium-light_skin_tone", [0x1f3c4, 0x1f3fc]),
  ("person_surfing_medium_skin_tone", [0x1f3c4, 0x1f3fd]), ("person_swimming", [0x1f3ca]),
  ("person_swimming_dark_skin_tone", [0x1f3ca, 0x1f3ff]),
  ("person_swimming_light_skin_tone", [0x1f3ca, 0x1f3fb])]

def namesNtoP4 : List (String × List Nat) := [
  ("person_swimming_medium-dark_skin_tone", [0x1f3ca, 0x1f3fe]),
  ("person_swimming_medium-light_skin_tone", [0x1f3ca, 0x1f3fc]),
  ("person_swimming_medium_skin_tone", [0x1f3ca, 0x1f3fd]), ("person_taking_bath", [0x1f6c0]),
  ("person_taking_bath_dark_skin_tone", [0x1f6c0, 0x1f3ff]),
  ("person_taking_bath_light_skin_tone", [0x1f6c0, 0x1f3fb]),
  ("person_taking_bath_medium-dark_skin_tone", [0x1f6c0, 0x1f3fe]),
  ("person_taking_bath_medium-light_skin_tone", [0x1f6c0, 0x1f3fc]),
  ("person_taking_bath_medium_skin_tone", [0x1f6c0, 0x1f3fd]), ("person_tipping_hand", [0x1f481]),
  ("person_tipping_hand_dark_skin_tone", [0x1f481, 0x1f3ff]),
  ("person_tipping_hand_light_skin_tone", [0x1f481, 0x1f3fb]),
  ("person_tipping_hand_medium-dark_skin_tone", [0x1f481, 0x1f3fe]),
  ("person_tipping_hand_medium-light_skin_tone", [0x1f481, 0x1f3fc]),
  ("person_tipping_hand_medium_skin_tone", [0x1f481, 0x1f3fd]), ("person_walking", [0x1f6b6]),
  ("person_walking_dark_skin_tone", [0x1f6b6, 0x1f3ff]),
  ("person_walking_light_skin_tone", [0x1f6b6, 0x1f3fb]),
  ("person_walking_medium-dark_skin_tone", [0x1f6b6, 0x1f3fe]),
  ("person_walking_medium-light_skin_tone", [0x1f6b6, 0x1f3fc]),
  ("person_walking_medium_skin_tone", [0x1f6b6, 0x1f3fd]), ("person_wearing_turban", [0x1f473]),
  ("person_wearing_turban_dark_skin_tone", [0x1f473, 0x1f3ff]),
  ("person_wearing_turban_light_skin_tone", [0x1f473, 0x1f3fb]),
  ("person_wearing_turban_medium-dark_skin_tone", [0x1f473, 0x1f3fe]),
  ("person_wearing_turban_medium-light_skin_tone", [0x1f473, 0x1f3fc]),
  ("person_wearing_turban_medium_skin_tone", [0x1f473, 0x1f3fd]), ("person_with_ball", [0x26f9]),
  ("person_with_blond_hair", [0x1f471]), ("person_with_pouting_face", [0x1f64e]),
  ("peru", [0x1f1f5, 0x1f1ea]), ("petri_dish", [0x1f9eb]), ("philippines", [0x1f1f5, 0x1f1ed]),
  ("phone", [0x260e]), ("pick", [0x26cf]), ("pie", [0x1f967]), ("pig", [0x1f437]), ("pig2", [0x1f416]),
  ("pig_face", [0x1f437]), ("pig_nose", [0x1f43d]), ("pile_of_poo", [0x1f4a9]), ("pill", [0x1f48a]),
  ("pinching_hand", [0x1f90f]), ("pine_decoration", [0x1f38d]), ("pineapple", [0x1f34d]),
  ("ping_pong", [0x1f3d3]), ("pirate_flag", [0x1f3f4, 0x200d, 0x2620, 0xfe0f]), ("pisces", [0x2653]),
  ("pistol", [0x1f52b]), ("pitcairn_islands", [0x1f1f5, 0x1f1f3]), ("pizza", [0x1f355]),
  ("place_of_worship", [0x1f6d0]), ("play_button", [0x25b6]), ("play_or_pause_button", [0x23ef]),
  ("pleading_face", [0x1f97a]), ("point_down", [0x1f447]), ("point_left", [0x1f448]),
  ("point_right", [0x1f449]), ("point_up", [0x261d]), ("point_up_2", [0x1f446]),
  ("poland", [0x1f1f5, 0x1f1f1]), ("police_car", [0x1f693]), ("police_car_light", [0x1f6a8]),
  ("police_officer", [0x1f46e]), ("police_officer_dark_skin_tone", [0x1f46e, 0x1f3ff]),
  ("police_officer_light_skin_tone", [0x1f46e, 0x1f3fb]),
  ("police_officer_medium-dark_skin_tone", [0x1f46e, 0x1f3fe]),
  ("police_officer_medium-light_skin_tone", [0x1f46e, 0x1f3fc]),
  ("police_officer_medium_skin_tone", [0x1f46e, 0x1f3fd]), ("poodle", [0x1f429]), ("pool_8_ball", [0x1f3b1]),
  ("poop", [0x1f4a9]), ("popcorn", [0x1f37f]), ("portugal", [0x1f1f5, 0x1f1f9]), ("post_office", [0x1f3e3]),
  ("postal_horn", [0x1f4ef]), ("postbox", [0x1f4ee]), ("pot_of_food", [0x1f372]),
  ("potable_water", [0x1f6b0]), ("potato", [0x1f954]), ("pouch", [0x1f45d]), ("poultry_leg", [0x1f357]),
  ("pound", [0x1f4b7]), ("pound_banknote", [0x1f4b7]), ("pouting_cat", [0x1f63e]),
  ("pouting_cat_face", [0x1f63e]), ("pouting_face", [0x1f621]), ("pray", [0x1f64f]),
  ("prayer_beads", [0x1f4ff]), ("pregnant_woman", [0x1f930]),
  ("pregnant_woman_dark_skin_tone", [0x1f930, 0x1f3ff]),
  ("pregnant_woman_light_skin_tone", [0x1f930, 0x1f3fb]),
  ("pregnant_woman_medium-dark_skin_tone", [0x1f930, 0x1f3fe]),
  ("pregnant_woman_medium-light_skin_tone", [0x1f930, 0x1f3fc]),
  ("pregnant_woman_medium_skin_tone", [0x1f930, 0x1f3fd]), ("pretzel", [0x1f968]), ("prince", [0x1f934]),
  ("prince_dark_skin_tone", [0x1f934, 0x1f3ff]), ("prince_light_skin_tone", [0x1f934, 0x1f3fb]),
  ("prince_medium-dark_skin_tone", [0x1f934, 0x1f3fe]), ("prince_medium-light_skin_tone", [0x1f934, 0x1f3fc]),
  ("prince_medium_skin_tone", [0x1f934, 0x1f3fd]), ("princess", [0x1f478]),
  ("princess_dark_skin_tone", [0x1f478, 0x1f3ff]), ("princess_light_skin_tone", [0x1f478, 0x1f3fb]),
  ("princess_medium-dark_skin_tone", [0x1f478, 0x1f3fe]),
  ("princess_medium-light_skin_tone", [0x1f478, 0x1f3fc]), ("princess_medium_skin_tone", [0x1f478, 0x1f3fd]),
  ("printer", [0x1f5a8]), ("probing_cane", [0x1f9af]), ("prohibited", [0x1f6ab]),
  ("puerto_rico", [0x1f1f5, 0x1f1f7]), ("punch", [0x1f44a]), ("purple_circle", [0x1f7e3]),
  ("purple_heart", [0x1f49c]), ("purple_square", [0x1f7ea]), ("purse", [0x1f45b]), ("pushpin", [0x1f4cc]),
  ("put_litter_in_its_place", [0x1f6ae])]

def namesNtoP : List (String × List Nat) :=
  namesNtoP1 ++ namesNtoP2 ++ namesNtoP3 ++ namesNtoP4

end Phrasebook.Emoji
